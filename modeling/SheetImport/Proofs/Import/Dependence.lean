import SheetImport.Import
import SheetImport.Proofs.Template.Dependence

/-!
# What an import depends on

An import in a built-in format reads the fields that its template names and a few more for its
items.  The form export also looks for all fields of spell names, whose order counts, because the
first of several equal names is the one that stays.  Two sheets that agree on all these cannot be
told apart by an import, so whatever else a sheet holds can be entered, left out or moved.
-/

namespace SheetImport

/-- Whether the fields with spell names hold the same values in the same order. -/
def AgreeOnSpells (first second : Source) : Prop :=
  ∀ pattern, Pattern.parse Extractor.spellNamePattern = .ok pattern →
    first.matching pattern = second.matching pattern

namespace Extractor

theorem classOfSummary_congr {first second : Source}
    (h : AgreeOn [classFeaturesField] first second) :
    classOfSummary first = classOfSummary second := by
  rw [classOfSummary, classOfSummary, h classFeaturesField (by simp)]

theorem classOfFields_congr {first second : Source}
    (h : AgreeOn [classNameField, classLevelField] first second) :
    classOfFields first = classOfFields second := by
  rw [classOfFields, classOfFields, h classNameField (by simp), h classLevelField (by simp)]

theorem spellsMatching_congr {first second : Source} (h : AgreeOnSpells first second) :
    spellsMatching first spellNamePattern = spellsMatching second spellNamePattern := by
  rw [spellsMatching, spellsMatching]
  cases hpattern : Pattern.parse spellNamePattern with
  | error fault => rfl
  | ok pattern => simp only [h pattern hpattern]

end Extractor

theorem extractAll_congr {first second : Source} {extractors : List Extractor}
    (h : ∀ extractor ∈ extractors, extractor.run first = extractor.run second) :
    extractAll first extractors = extractAll second extractors := by
  induction extractors with
  | nil => rfl
  | cons extractor rest ih =>
      rw [extractAll_cons, extractAll_cons, h extractor List.mem_cons_self,
        ih fun other hother => h other (List.mem_cons_of_mem _ hother)]

theorem Format.run_congr {format : Format} (htransparent : format.template.isTransparent)
    {first second : Source} (hnames : AgreeOn format.template.names first second)
    (hextractors : ∀ extractor ∈ format.extractors, extractor.run first = extractor.run second) :
    format.run first = format.run second := by
  rw [run_eq, run_eq, Template.resolve_congr htransparent hnames, extractAll_congr hextractors]

/-! ## The built-in formats -/

namespace FormExport

set_option maxRecDepth 10000 in
theorem isTransparent_template : format.template.isTransparent = true := by
  rfl

/-- Whether two sheets look the same to the import of a form. -/
structure Agree (first second : Source) : Prop where
  names : AgreeOn format.template.names first second
  summary : AgreeOn [Extractor.classFeaturesField] first second
  spells : AgreeOnSpells first second

/-- Whether the import of a form asks for the field of that name. -/
def reads (name : String) : Bool :=
  format.template.names.contains name || name == Extractor.classFeaturesField

theorem run_congr {first second : Source} (h : Agree first second) :
    format.run first = format.run second := by
  apply Format.run_congr isTransparent_template h.names
  intro extractor hextractor
  simp only [format, List.mem_cons, List.not_mem_nil, or_false] at hextractor
  rcases hextractor with rfl | rfl
  · exact congrArg Except.ok (Extractor.classOfSummary_congr h.summary)
  · exact Extractor.spellsMatching_congr h.spells

end FormExport

namespace StructuredExport

set_option maxRecDepth 10000 in
theorem isTransparent_template : format.template.isTransparent = true := by
  rfl

/-- Whether two sheets look the same to the import of a structured export. -/
structure Agree (first second : Source) : Prop where
  names : AgreeOn format.template.names first second
  classFields : AgreeOn [Extractor.classNameField, Extractor.classLevelField] first second

/-- Whether the import of a structured export asks for the field of that name. -/
def reads (name : String) : Bool :=
  format.template.names.contains name || name == Extractor.classNameField ||
    name == Extractor.classLevelField

theorem run_congr {first second : Source} (h : Agree first second) :
    format.run first = format.run second := by
  apply Format.run_congr isTransparent_template h.names
  intro extractor hextractor
  simp only [format, List.mem_singleton] at hextractor
  subst hextractor
  exact congrArg Except.ok (Extractor.classOfFields_congr h.classFields)

end StructuredExport

/-! ## Sheets with the same fields of interest -/

namespace Keyed

variable {α : Type} {entries others : Keyed α}

theorem get?_of_mem (hdistinct : (keys entries).Nodup) {name : String} {value : α}
    (hmem : (name, value) ∈ entries) : get? entries name = some value := by
  induction entries with
  | nil => cases hmem
  | cons entry rest ih =>
      rw [keys, List.map_cons, List.nodup_cons] at hdistinct
      rcases List.mem_cons.mp hmem with rfl | hrest
      · simp [get?]
      · have hne : entry.1 ≠ name := by
          rintro rfl
          exact hdistinct.1 (List.mem_map.mpr ⟨_, hrest, rfl⟩)
        rw [get?, if_neg hne]
        exact ih hdistinct.2 hrest

/-- With distinct names the order of entries does not matter to what stands under a name. -/
theorem get?_eq_of_perm (hentries : (keys entries).Nodup) (hothers : (keys others).Nodup)
    (hperm : entries.Perm others) (name : String) : get? entries name = get? others name := by
  ext value
  constructor
  · intro hvalue
    exact get?_of_mem hothers (hperm.mem_iff.mp (mem_of_get? hvalue))
  · intro hvalue
    exact get?_of_mem hentries (hperm.mem_iff.mpr (mem_of_get? hvalue))

theorem get?_filter_of_wanted {wanted : String → Bool} {name : String} (hname : wanted name)
    (entries : Keyed α) :
    get? (entries.filter fun entry => wanted entry.1) name = get? entries name := by
  induction entries with
  | nil => rfl
  | cons entry rest ih =>
      rw [List.filter_cons]
      by_cases hkey : entry.1 = name
      · simp [get?, hkey, hname]
      · split <;> simp only [get?, hkey, if_false, ih]

end Keyed

namespace Sheet

/-- The fields of a sheet whose names are of interest, in order. -/
def only (sheet : Sheet) (wanted : String → Bool) : Keyed Value :=
  sheet.fields.filter fun field => wanted field.1

theorem nodup_keys_only (sheet : Sheet) (wanted : String → Bool) :
    (Keyed.keys (sheet.only wanted)).Nodup :=
  sheet.distinct.sublist (List.filter_sublist.map Prod.fst)

/-- Sheets with the same fields of interest, in whatever order, agree on the names of interest. -/
theorem agreeOn_of_only_perm {first second : Sheet} {wanted : String → Bool} {names : List String}
    (hperm : (first.only wanted).Perm (second.only wanted)) (hnames : ∀ name ∈ names, wanted name) :
    AgreeOn names first.source second.source := by
  intro name hname
  calc
    Keyed.get? first.fields name = Keyed.get? (first.only wanted) name :=
      (Keyed.get?_filter_of_wanted (hnames name hname) first.fields).symm
    _ = Keyed.get? (second.only wanted) name := by
      apply Keyed.get?_eq_of_perm (first.nodup_keys_only wanted) (second.nodup_keys_only wanted)
      exact hperm
    _ = Keyed.get? second.fields name :=
      Keyed.get?_filter_of_wanted (hnames name hname) second.fields

end Sheet

theorem FormExport.agree_of_only_perm {first second : Sheet}
    (hperm : (first.only reads).Perm (second.only reads))
    (hspells : AgreeOnSpells first.source second.source) :
    Agree first.source second.source where
  names := by
    apply Sheet.agreeOn_of_only_perm hperm
    intro name hname
    simp [reads, hname]
  summary := by
    apply Sheet.agreeOn_of_only_perm hperm
    simp [reads]
  spells := hspells

theorem StructuredExport.agree_of_only_perm {first second : Sheet}
    (hperm : (first.only reads).Perm (second.only reads)) : Agree first.source second.source where
  names := by
    apply Sheet.agreeOn_of_only_perm hperm
    intro name hname
    simp [reads, hname]
  classFields := by
    apply Sheet.agreeOn_of_only_perm hperm
    simp [reads]

/-- A template without computed leaves depends on the fields it names and on nothing else, and so do
the built-in imports on the fields of their templates, of their classes and of their spells.
Entering, leaving out or moving any other field of a sheet changes neither a result nor a failure. -/
theorem imports_depend_on_fields_read :
    (∀ template : Template, template.isTransparent → ∀ first second : Source,
        AgreeOn template.names first second →
          template.resolve first = template.resolve second) ∧
      (∀ first second : Sheet, FormExport.Agree first.source second.source →
        FormExport.format.run first.source = FormExport.format.run second.source) ∧
      (∀ first second : Sheet, StructuredExport.Agree first.source second.source →
        StructuredExport.format.run first.source = StructuredExport.format.run second.source) ∧
      (∀ first second : Sheet,
        (first.only FormExport.reads).Perm (second.only FormExport.reads) →
          AgreeOnSpells first.source second.source →
            FormExport.format.run first.source = FormExport.format.run second.source) ∧
      ∀ first second : Sheet,
        (first.only StructuredExport.reads).Perm (second.only StructuredExport.reads) →
          StructuredExport.format.run first.source = StructuredExport.format.run second.source := by
  refine ⟨?_, ?_, ?_, ?_, ?_⟩
  · intro template htransparent first second hagree
    exact Template.resolve_congr htransparent hagree
  · intro first second hagree
    exact FormExport.run_congr hagree
  · intro first second hagree
    exact StructuredExport.run_congr hagree
  · intro first second hperm hspells
    exact FormExport.run_congr (FormExport.agree_of_only_perm hperm hspells)
  · intro first second hperm
    exact StructuredExport.run_congr (StructuredExport.agree_of_only_perm hperm)

/-! ## Sheets that look the same -/

/-- A form with a class and two spells. -/
def spellForm : Sheet :=
  Sheet.ofPairs [
    ("Race", .text "Elf"), ("P1.SSfront.spells.name", .text "Shield"),
    ("P2.SSmore.spells.name", .text "Light"), ("Class Features", .text "level 3: Rage (Monk 1)")]

/-- The same form with its fields in another order and with a note. -/
def annotatedForm : Sheet :=
  Sheet.ofPairs [
    ("Notes", .boolean true), ("P1.SSfront.spells.name", .text "Shield"),
    ("Class Features", .text "level 3: Rage (Monk 1)"), ("P2.SSmore.spells.name", .text "Light"),
    ("Race", .text "Elf")]

set_option maxRecDepth 10000 in
theorem only_annotatedForm :
    (spellForm.only FormExport.reads).Perm (annotatedForm.only FormExport.reads) :=
  List.Perm.swap ("Class Features", Value.text "level 3: Rage (Monk 1)")
    ("Race", Value.text "Elf") []

set_option maxRecDepth 10000 in
theorem agreeOnSpells_annotatedForm : AgreeOnSpells spellForm.source annotatedForm.source := by
  intro pattern hpattern
  cases hpattern
  rfl

/-- A structured export, and the same export with its fields the other way round and with a note. -/
def sheetOfMonk : Sheet :=
  Sheet.ofPairs [("name", .text "Ayla"), ("classes.id-00001.name", .text "Monk")]

def annotatedSheetOfMonk : Sheet :=
  Sheet.ofPairs [
    ("classes.id-00001.name", .text "Monk"), ("notes", .boolean true), ("name", .text "Ayla")]

set_option maxRecDepth 10000 in
theorem only_annotatedSheetOfMonk :
    (sheetOfMonk.only StructuredExport.reads).Perm
      (annotatedSheetOfMonk.only StructuredExport.reads) :=
  List.Perm.swap ("classes.id-00001.name", Value.text "Monk") ("name", Value.text "Ayla") []

theorem imports_depend_on_fields_read_annotated :
    (FormExport.format.template.isTransparent ∧
      AgreeOn FormExport.format.template.names spellForm.source annotatedForm.source ∧
        FormExport.format.template.resolve spellForm.source =
          FormExport.format.template.resolve annotatedForm.source) ∧
      (FormExport.Agree spellForm.source annotatedForm.source ∧
        (spellForm.only FormExport.reads).Perm (annotatedForm.only FormExport.reads) ∧
          FormExport.format.run spellForm.source = FormExport.format.run annotatedForm.source) ∧
      StructuredExport.Agree sheetOfMonk.source annotatedSheetOfMonk.source ∧
        (sheetOfMonk.only StructuredExport.reads).Perm
          (annotatedSheetOfMonk.only StructuredExport.reads) ∧
        StructuredExport.format.run sheetOfMonk.source =
          StructuredExport.format.run annotatedSheetOfMonk.source := by
  have hform := FormExport.agree_of_only_perm only_annotatedForm agreeOnSpells_annotatedForm
  have hexport := StructuredExport.agree_of_only_perm only_annotatedSheetOfMonk
  obtain ⟨htemplate, hforms, hexports, -, -⟩ := imports_depend_on_fields_read
  refine ⟨⟨FormExport.isTransparent_template, hform.names, ?_⟩, ⟨hform, only_annotatedForm, ?_⟩,
    hexport, only_annotatedSheetOfMonk, ?_⟩
  · exact htemplate _ FormExport.isTransparent_template _ _ hform.names
  · exact hforms _ _ hform
  · exact hexports _ _ hexport

end SheetImport
