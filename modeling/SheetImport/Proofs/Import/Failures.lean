import SheetImport.Import
import SheetImport.Proofs.Template.Resolution
import SheetImport.Proofs.Value.Serialization

/-!
# What makes an import fail

Hardly anything does.  Absent fields are null, extractors find nothing, and of all the leaves of the
two built-in templates only one can fail: the languages, which are put into lower case and therefore
have to be text.  A language that is given as anything but text fails the import, and of several it
is the first, in the order of the template, that the failure tells.
-/

namespace SheetImport

/-! ## Leaves that can fail -/

namespace Template

/-- Whether a leaf reads a value from every sheet. -/
def Leaf.isTotal : Leaf → Bool
  | .literal _ => true
  | .field _ => true
  | .fieldOr _ _ => true
  | .lookup .filledIn _ => true
  | .lookup .filledInLowercase _ => false
  | .lookup .checkbox names => names.length == 1
  | .lookup .checkedCount _ => true
  | .computed _ _ => false

/-- The leaves of a template that can fail. -/
def fragileLeaves (template : Template) : List Leaf :=
  template.leaves.filter fun leaf => !leaf.isTotal

theorem Leaf.failure?_read_of_isTotal {leaf : Leaf} (htotal : leaf.isTotal) (source : Source) :
    failure? (leaf.read source) = none := by
  cases leaf with
  | literal value => rfl
  | field name => rfl
  | fieldOr name fallback => rfl
  | lookup way names =>
      cases way with
      | filledIn => rfl
      | filledInLowercase => simp [isTotal] at htotal
      | checkbox =>
          simp only [isTotal, beq_iff_eq] at htotal
          obtain ⟨name, rfl⟩ := List.length_eq_one_iff.mp htotal
          rfl
      | checkedCount => rfl
  | computed label compute => simp [isTotal] at htotal

/-- Only the leaves that can fail decide about the failure of a template. -/
theorem failure?_resolve_of_fragileLeaves (source : Source) (template : Template) :
    failure? (template.resolve source) =
      template.fragileLeaves.findSome? fun leaf => failure? (leaf.read source) := by
  rw [failure?_resolve, fragileLeaves, ← List.head?_filterMap, ← List.head?_filterMap,
    List.filterMap_filter]
  congr 2
  funext leaf
  cases htotal : leaf.isTotal with
  | true => simp [Leaf.failure?_read_of_isTotal htotal source]
  | false => simp

end Template

/-! ## Values that should have been text -/

/-- Whether a value counts as given and is not text. -/
def Value.isMisplaced (value : Value) : Bool :=
  value.isTruthy && value.text?.isNone

/-- The value of the first of some fields that is given and is not text. -/
def FirstMisplaced (sheet : Sheet) (names : List String) (value : Value) : Prop :=
  ∃ before name after, names = before ++ name :: after ∧
    sheet.get? name = some value ∧ value.isMisplaced ∧
    ∀ other ∈ before, ∀ given, sheet.get? other = some given → ¬given.isMisplaced

namespace Lookup

theorem failure?_lowercaseAll (values : List Value) :
    failure? (lowercaseAll values) =
      (values.find? fun value => value.text?.isNone).map (.notText "lowercase_list") := by
  induction values with
  | nil => rfl
  | cons value rest ih =>
      cases value with
      | text s => rw [lowercaseAll, failure?_map, ih]; rfl
      | _ => rfl

/-- A blank entry is text, so what is not text is filled in as soon as it is given. -/
theorem isFilledIn_and_isNone_iff (value : Value) :
    (isFilledIn value ∧ value.text?.isNone) ↔ value.isMisplaced := by
  cases value <;> simp [isFilledIn, Value.isMisplaced, Value.text?]

theorem failure?_filledInLowercase (source : Source) (names : List String) :
    failure? (Lookup.filledInLowercase.apply source names) =
      (names.findSome? fun name => (source.get? name).filter Value.isMisplaced).map
        (.notText "lowercase_list") := by
  rw [apply, failure?_map, failure?_lowercaseAll, filledInValues, List.find?_filter]
  congr 1
  simp only [isFilledIn_and_isNone_iff]
  induction names with
  | nil => rfl
  | cons name rest ih =>
      rw [List.filterMap_cons, List.findSome?_cons]
      cases source.get? name with
      | none => exact ih
      | some value =>
          by_cases hvalue : value.isMisplaced
          · simp [hvalue, Option.filter_some]
          · rw [List.find?_cons_of_neg (by simpa using hvalue), ih, Option.filter_some,
              if_neg hvalue]

end Lookup

theorem findSome?_isMisplaced_eq_some_iff {sheet : Sheet} {names : List String} {value : Value} :
    (names.findSome? fun name => (sheet.get? name).filter Value.isMisplaced) = some value ↔
      FirstMisplaced sheet names value := by
  simp only [List.findSome?_eq_some_iff, Option.filter_eq_some_iff, Option.filter_eq_none_iff,
    FirstMisplaced, and_assoc]

/-- Fields of which one is given without being text have a first one. -/
theorem exists_firstMisplaced_iff {sheet : Sheet} {names : List String} :
    (∃ value, FirstMisplaced sheet names value) ↔
      ∃ name ∈ names, ∃ value, sheet.get? name = some value ∧ value.isMisplaced := by
  simp only [← findSome?_isMisplaced_eq_some_iff, ← Option.isSome_iff_exists,
    List.findSome?_isSome_iff, Option.isSome_filter, Option.any_eq_true]

/-! ## Imports -/

/-- Whether an import in a format fails just because of some fields that have to be text.  The first
of them that is given and is not text is told, with the compact text of its document. -/
def FailsJustOn (format : Format) (names : List String) (sheet : Sheet) : Prop :=
  ((∃ e, format.run sheet.source = .error e) ↔
      ∃ name ∈ names, ∃ value, sheet.get? name = some value ∧ value.isMisplaced) ∧
    ∀ e, format.run sheet.source = .error e ↔
      ∃ value, FirstMisplaced sheet names value ∧ e = .notText "lowercase_list" value ∧
        e.message = "lowercase_list expected text but found " ++ value.toJson.compact

theorem extractAll_eq_ok {source : Source} {extractors : List Extractor}
    (htotal : ∀ extractor ∈ extractors, ∃ items, extractor.run source = .ok items) :
    ∃ items, extractAll source extractors = .ok items := by
  induction extractors with
  | nil => exact ⟨[], rfl⟩
  | cons extractor rest ih =>
      obtain ⟨items, hitems⟩ := htotal extractor List.mem_cons_self
      obtain ⟨more, hmore⟩ := ih fun other hother => htotal other (List.mem_cons_of_mem _ hother)
      exact ⟨items ++ more, by rw [extractAll_cons, hitems, hmore]⟩

/-- With extractors that never fail, an import fails just as its template does. -/
theorem Format.failure?_run {format : Format} {source : Source}
    (htotal : ∀ extractor ∈ format.extractors, ∃ items, extractor.run source = .ok items) :
    failure? (format.run source) = failure? (format.template.resolve source) := by
  obtain ⟨items, hitems⟩ := extractAll_eq_ok htotal
  rw [run_eq, hitems]
  cases format.template.resolve source <;> rfl

/-- An import that succeeds gives the record of its template and the items of its extractors. -/
theorem Format.run_eq_ok_iff {format : Format} {source : Source} {imported : Imported} :
    format.run source = .ok imported ↔
      imported.formatId = format.id ∧ format.template.resolve source = .ok imported.actor ∧
        extractAll source format.extractors = .ok imported.items := by
  obtain ⟨id, actor, items⟩ := imported
  rw [run_eq]
  cases format.template.resolve source with
  | error e => simp
  | ok value =>
      cases extractAll source format.extractors with
      | error e => simp
      | ok found => simp [eq_comm]

theorem failsJustOn_of_fragileLeaves {format : Format} {names : List String} {sheet : Sheet}
    (hleaves : format.template.fragileLeaves = [.lookup .filledInLowercase names])
    (htotal : ∀ extractor ∈ format.extractors, ∃ items, extractor.run sheet.source = .ok items) :
    FailsJustOn format names sheet := by
  have hfails : ∀ e, format.run sheet.source = .error e ↔
      ∃ value, FirstMisplaced sheet names value ∧ e = .notText "lowercase_list" value := by
    intro e
    rw [← failure?_eq_some_iff, Format.failure?_run htotal,
      Template.failure?_resolve_of_fragileLeaves, hleaves]
    have hread : failure? ((Template.Leaf.lookup .filledInLowercase names).read sheet.source) =
        (names.findSome? fun name => (sheet.get? name).filter Value.isMisplaced).map
          (.notText "lowercase_list") :=
      Lookup.failure?_filledInLowercase sheet.source names
    rw [List.findSome?_singleton, hread, Option.map_eq_some_iff]
    simp only [findSome?_isMisplaced_eq_some_iff, eq_comm (b := e)]
  refine ⟨?_, fun e => ?_⟩
  · rw [← exists_firstMisplaced_iff]
    constructor
    · rintro ⟨e, he⟩
      obtain ⟨value, hfirst, -⟩ := (hfails e).mp he
      exact ⟨value, hfirst⟩
    · rintro ⟨value, hfirst⟩
      exact ⟨_, (hfails _).mpr ⟨value, hfirst, rfl⟩⟩
  · rw [hfails]
    constructor
    · rintro ⟨value, hfirst, rfl⟩
      refine ⟨value, hfirst, rfl, ?_⟩
      rw [← value.serialize_eq_compact]
      rfl
    · rintro ⟨value, hfirst, he, -⟩
      exact ⟨value, hfirst, he⟩

/-! ## The built-in formats -/

set_option maxRecDepth 10000 in
theorem fragileLeaves_formExport :
    FormExport.template.fragileLeaves = [.lookup .filledInLowercase
      ["Language 1", "Language 2", "Language 3", "Language 4", "Language 5"]] := by
  rfl

set_option maxRecDepth 10000 in
theorem fragileLeaves_structuredExport :
    StructuredExport.template.fragileLeaves = [.lookup .filledInLowercase
      ["languagelist.id-00001.name", "languagelist.id-00002.name", "languagelist.id-00003.name",
        "languagelist.id-00004.name", "languagelist.id-00005.name",
        "languagelist.id-00006.name"]] := by
  rfl

/-- The pattern for the names of spell fields is one. -/
theorem failure?_parse_spellNamePattern :
    failure? (Pattern.parse Extractor.spellNamePattern) = none := by
  rfl

theorem Extractor.spellList_run_eq_ok (source : Source) :
    ∃ items, spellList.run source = .ok items := by
  obtain ⟨pattern, hpattern⟩ := failure?_eq_none_iff.mp failure?_parse_spellNamePattern
  refine ⟨((source.matching pattern).filterMap trimmedDisplay?).eraseDups.map Item.spell, ?_⟩
  change spellsMatching source spellNamePattern = _
  rw [spellsMatching, hpattern]

/-- Importing a form fails just because of its five language fields, importing a structured export
just because of the first six entries of its language list. -/
theorem builtIn_failsJustOn_languages (sheet : Sheet) :
    FailsJustOn FormExport.format
        ["Language 1", "Language 2", "Language 3", "Language 4", "Language 5"] sheet ∧
      FailsJustOn StructuredExport.format
        ["languagelist.id-00001.name", "languagelist.id-00002.name", "languagelist.id-00003.name",
          "languagelist.id-00004.name", "languagelist.id-00005.name",
          "languagelist.id-00006.name"] sheet := by
  constructor
  · apply failsJustOn_of_fragileLeaves fragileLeaves_formExport
    intro extractor hextractor
    simp only [FormExport.format, List.mem_cons, List.not_mem_nil, or_false] at hextractor
    rcases hextractor with rfl | rfl
    · exact ⟨_, rfl⟩
    · exact Extractor.spellList_run_eq_ok sheet.source
  · apply failsJustOn_of_fragileLeaves fragileLeaves_structuredExport
    intro extractor hextractor
    simp only [StructuredExport.format, List.mem_singleton] at hextractor
    subst hextractor
    exact ⟨_, rfl⟩

end SheetImport
