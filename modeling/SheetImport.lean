import SheetImport.Compendium.Shelf
import SheetImport.Main
import SheetImport.Proofs.Compendium.Runs
import SheetImport.Proofs.Import.Failures
import SheetImport.Proofs.Template.Resolution
import SheetImport.Proofs.Compendium.Lookup
import SheetImport.Proofs.ClassFeatures.Grants
import SheetImport.Proofs.ClassFeatures.Names
import SheetImport.Proofs.Import.Items
import SheetImport.Proofs.Import.Blanks
import SheetImport.Proofs.Import.Shapes
import SheetImport.Proofs.Import.Dependence
import SheetImport.Proofs.Import.Export
import SheetImport.Proofs.ClassFeatures.Markers
import SheetImport.Proofs.ClassFeatures.Patterns
import SheetImport.Proofs.ClassFeatures.SummaryClass
import SheetImport.Proofs.Pattern.Advancing
import SheetImport.Proofs.Pattern.Matching
import SheetImport.Proofs.Pattern.Words
import SheetImport.Proofs.Import.SpellNames
import SheetImport.Proofs.Program.Atomicity
import SheetImport.Proofs.Template.Pointers
import SheetImport.Proofs.Compendium.ClassData
import SheetImport.Proofs.Compendium.Search
import SheetImport.Proofs.Sheet.Flattening
import SheetImport.Proofs.Value.Conversions
import SheetImport.Proofs.Sheet.FlatForm
import SheetImport.Proofs.Item.WrittenForms
import SheetImport.Proofs.Decimal.WholeFloats
