import SheetImport.ClassFeatures
import SheetImport.ImportError
import SheetImport.Sheet

/-!
# Extractors

Extractors derive items that a lookup cannot express.  They run after the template, against the same
sheet.  Finding nothing is no failure.
-/

namespace SheetImport

/-- A named way to derive items from a sheet. -/
structure Extractor where
  name : String
  run : Source → Except ImportError (List Item)

namespace Extractor

/-- The field of a structured export with the name of the first class. -/
def classNameField : String := "classes.id-00001.name"

/-- The field of a structured export with the level of the first class. -/
def classLevelField : String := "classes.id-00001.level"

/-- The field of a form export with the class features summary. -/
def classFeaturesField : String := "Class Features"

/-- The fields of a form export that hold spell names: those of the repeated spell sheets. -/
def spellNamePattern : String := "\\.SS[a-zA-Z]+\\.spells\\.name"

/-- A scalar as text without white space at its ends, unless nothing is left. -/
def trimmedDisplay? (value : Value) : Option String :=
  (value.display?.map Text.trim).filter (· ≠ "")

/-- The class that a class features summary describes. -/
def classOfSummary (source : Source) : List Item :=
  match (source.get? classFeaturesField).bind Value.text? with
  | some text => (ClassFeatures.ofText text).item?.toList
  | none => []

/-- The class that the fields of a structured export name.  They never tell a subclass. -/
def classOfFields (source : Source) : List Item :=
  match (source.get? classNameField).bind trimmedDisplay? with
  | some name =>
      [⟨.classLevels, name, (source.get? classLevelField).bind trimmedDisplay?, none⟩]
  | none => []

/-- A spell for every different name in the fields that match. -/
def spellsMatching (source : Source) (pattern : String) : Except ImportError (List Item) :=
  match Pattern.parse pattern with
  | .error fault => .error (.invalidPattern fault)
  | .ok pattern =>
      .ok (((source.matching pattern).filterMap trimmedDisplay?).eraseDups.map Item.spell)

def structuredClass : Extractor :=
  ⟨"structured_class", fun source => .ok (classOfFields source)⟩

def freeTextClass : Extractor :=
  ⟨"free_text_class", fun source => .ok (classOfSummary source)⟩

def spellList : Extractor :=
  ⟨"spell_list", fun source => spellsMatching source spellNamePattern⟩

end Extractor

end SheetImport
