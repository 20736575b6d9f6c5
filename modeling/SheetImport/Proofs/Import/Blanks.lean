import SheetImport.Proofs.Import.Failures
import SheetImport.Proofs.Template.Paths
import SheetImport.Proofs.Template.Texts
import SheetImport.Proofs.Text.LowerCase

/-!
# Blank text and unchecked marks

Exports write blank text and `Off` for what nobody has filled in.  A record has null and false
there instead wherever it has a plain field, and empty text occurs nowhere in the record of a sheet
of scalars.  `Off` can occur in one place.  Nothing is normalized inside a list, and each built-in
format has one list that takes over whatever its fields hold unless that is blank.  The lists in
lower case have no `Off` in them, but only because it is written `off` there.
-/

namespace SheetImport

/-! ## Scalars -/

/-- Whether a value is neither a list nor an object. -/
def Value.isScalar : Value → Bool
  | .list _ => false
  | .object _ => false
  | _ => true

/-- A scalar holds at most the text that it is. -/
theorem Value.mem_texts_of_isScalar {value : Value} (h : value.isScalar)
    {text : List String × String} : text ∈ value.texts ↔ text.1 = [] ∧ value = .text text.2 := by
  cases value with
  | text s => simp [texts, Prod.ext_iff, eq_comm]
  | list items => cases h
  | object members => cases h
  | _ => simp [texts]

theorem Value.marks_of_mem_texts_normalized {value : Value} (h : value.isScalar)
    {text : List String × String} (htext : text ∈ value.normalized.texts) :
    text.2 ≠ "" ∧ text.2 ≠ uncheckedMark := by
  cases value with
  | text s =>
      rw [normalized] at htext
      split_ifs at htext with hmark hempty
      · cases htext
      · cases htext
      · rw [List.mem_singleton.mp htext]
        exact ⟨hempty, hmark⟩
  | list items => cases h
  | object members => cases h
  | _ => cases htext

/-- Whether all fields of a sheet hold scalars. -/
def Sheet.HoldsScalars (sheet : Sheet) : Prop :=
  ∀ field ∈ sheet.fields, field.2.isScalar

instance (sheet : Sheet) : Decidable sheet.HoldsScalars :=
  inferInstanceAs (Decidable (∀ field ∈ sheet.fields, field.2.isScalar))

theorem Sheet.HoldsScalars.isScalar {sheet : Sheet} (h : sheet.HoldsScalars) {name : String}
    {value : Value} (hvalue : sheet.get? name = some value) : value.isScalar :=
  h _ (Keyed.mem_of_get? hvalue)

/-! ## Lists of fields -/

theorem exists_of_map_eq_ok {ε α β : Type} {f : α → β} {result : Except ε α} {y : β}
    (h : result.map f = .ok y) : ∃ x, result = .ok x ∧ f x = y := by
  cases result with
  | error e => cases h
  | ok x => exact ⟨x, rfl, Except.ok.inj h⟩

namespace Lookup

theorem mem_filledInValues {sheet : Sheet} {names : List String} {value : Value} :
    value ∈ filledInValues sheet.source names ↔
      isFilledIn value ∧ ∃ name ∈ names, sheet.get? name = some value := by
  rw [filledInValues, List.mem_filter, List.mem_filterMap, and_comm]
  rfl

theorem isFilledIn_text {s : String} : isFilledIn (.text s) ↔ s ≠ "" ∧ s ≠ blankEntry := by
  simp [isFilledIn, Value.isTruthy, Value.text?]

theorem exists_text_of_mem_lowercaseAll {values lowered : List Value}
    (h : lowercaseAll values = .ok lowered) {value : Value} (hvalue : value ∈ lowered) :
    ∃ s, .text s ∈ values ∧ value = .text (Text.lowercase s) := by
  induction values generalizing lowered with
  | nil =>
      cases h
      cases hvalue
  | cons first rest ih =>
      cases first with
      | text s =>
          rw [lowercaseAll] at h
          obtain ⟨more, hrest, rfl⟩ := exists_of_map_eq_ok h
          rcases List.mem_cons.mp hvalue with rfl | hlater
          · exact ⟨s, List.mem_cons_self, rfl⟩
          · obtain ⟨other, hother, rfl⟩ := ih hrest hlater
            exact ⟨other, List.mem_cons_of_mem _ hother, rfl⟩
      | _ => cases h

end Lookup

/-- A text in lower case is no unchecked mark. -/
theorem Text.lowercase_ne_uncheckedMark (s : String) : Text.lowercase s ≠ uncheckedMark := by
  intro h
  have hcapital : 'O' ∈ (Text.lowercase s).toList := by rw [h]; decide
  exact Text.not_isUpper_of_mem_lowercase hcapital (by decide)

/-! ## Leaves -/

namespace Template

/-- Whether a leaf leaves neither empty text nor unchecked marks of a sheet of scalars. -/
def Leaf.replacesMarks : Leaf → Bool
  | .literal value => value.isScalar
  | .field _ => true
  | .fieldOr _ fallback => fallback.all Value.isScalar
  | .lookup .filledIn _ => false
  | .lookup .filledInLowercase _ => true
  | .lookup .checkbox _ => true
  | .lookup .checkedCount _ => true
  | .computed _ _ => false

/-- The other leaves of a template, with the keys that lead to them. -/
def looseLeaves (template : Template) : List (List String × Leaf) :=
  template.placedLeaves.filter fun placed => !placed.2.replacesMarks

theorem Leaf.mem_texts_iff {source : Source} {leaf : Leaf} {text : List String × String} :
    text ∈ leaf.texts source ↔ ∃ raw, leaf.read source = .ok raw ∧ text ∈ raw.normalized.texts := by
  rw [texts]
  cases leaf.read source <;> simp

theorem Leaf.isScalar_of_read_field {sheet : Sheet} (hscalars : sheet.HoldsScalars) {name : String}
    {raw : Value} (hread : (Leaf.field name).read sheet.source = .ok raw) : raw.isScalar := by
  cases hread
  split
  case h_1 => rfl
  case h_2 value _ hvalue => exact hscalars.isScalar hvalue
  case h_3 => rfl

theorem Leaf.isScalar_of_read_fieldOr {sheet : Sheet} (hscalars : sheet.HoldsScalars)
    {name : String} {fallback : Option Value} (hfallback : fallback.all Value.isScalar)
    {raw : Value}
    (hread : (Leaf.fieldOr name fallback).read sheet.source = .ok raw) : raw.isScalar := by
  have hdefault : (fallback.getD .null).isScalar := by
    cases fallback with
    | none => rfl
    | some value => exact hfallback
  cases hread
  split
  case h_1 value hvalue =>
    split_ifs
    · exact hscalars.isScalar hvalue
    · exact hdefault
  case h_2 => exact hdefault

theorem Leaf.marks_of_mem_texts_lowercase {source : Source} {names : List String}
    {text : List String × String}
    (htext : text ∈ (Leaf.lookup .filledInLowercase names).texts source) :
    text.2 ≠ "" ∧ text.2 ≠ uncheckedMark := by
  obtain ⟨raw, hread, htext⟩ := mem_texts_iff.mp htext
  change (Lookup.lowercaseAll (Lookup.filledInValues source names)).map Value.list = .ok raw
    at hread
  obtain ⟨lowered, hlowered, rfl⟩ := exists_of_map_eq_ok hread
  have hlist : text ∈ (Value.list lowered).texts := htext
  rw [Value.texts_list, List.mem_flatMap] at hlist
  obtain ⟨value, hvalue, htext⟩ := hlist
  obtain ⟨s, hs, rfl⟩ := Lookup.exists_text_of_mem_lowercaseAll hlowered hvalue
  rw [List.mem_singleton.mp htext]
  have hgiven := Lookup.isFilledIn_text.mp (List.mem_filter.mp hs).2
  exact ⟨fun hempty => hgiven.1 (Text.lowercase_eq_empty_iff.mp hempty),
    Text.lowercase_ne_uncheckedMark s⟩

/-- Such a leaf reads no empty text and no unchecked mark from a sheet of scalars. -/
theorem Leaf.marks_of_mem_texts {leaf : Leaf} (hleaf : leaf.replacesMarks) {sheet : Sheet}
    (hscalars : sheet.HoldsScalars) {text : List String × String}
    (htext : text ∈ leaf.texts sheet.source) : text.2 ≠ "" ∧ text.2 ≠ uncheckedMark := by
  -- All but the lists in lower case read scalars, in which normalizing leaves no mark.
  have hscalar : ∀ raw, leaf.read sheet.source = .ok raw → raw.isScalar →
      text.2 ≠ "" ∧ text.2 ≠ uncheckedMark := by
    intro raw hread hraw
    obtain ⟨other, hother, htext⟩ := mem_texts_iff.mp htext
    cases hread.symm.trans hother
    exact Value.marks_of_mem_texts_normalized hraw htext
  obtain ⟨raw, hread, -⟩ := mem_texts_iff.mp htext
  cases leaf with
  | literal value => exact hscalar value rfl hleaf
  | field name => exact hscalar raw hread (isScalar_of_read_field hscalars hread)
  | fieldOr name fallback => exact hscalar raw hread (isScalar_of_read_fieldOr hscalars hleaf hread)
  | lookup way names =>
      cases way with
      | filledIn => cases hleaf
      | filledInLowercase => exact marks_of_mem_texts_lowercase htext
      | checkbox =>
          have hinteger : raw.isScalar := by
            rcases names with _ | ⟨name, _ | _⟩ <;> cases hread
            rfl
          exact hscalar raw hread hinteger
      | checkedCount => exact hscalar _ rfl rfl
  | computed label compute => cases hleaf

theorem Leaf.mem_texts_filledIn {sheet : Sheet} (hscalars : sheet.HoldsScalars)
    {names : List String} {text : List String × String} :
    text ∈ (Leaf.lookup .filledIn names).texts sheet.source ↔
      text.1 = [] ∧ text.2 ≠ "" ∧ text.2 ≠ Lookup.blankEntry ∧
        ∃ name ∈ names, sheet.get? name = some (.text text.2) := by
  change text ∈ (Value.list (Lookup.filledInValues sheet.source names)).texts ↔ _
  rw [Value.texts_list, List.mem_flatMap]
  constructor
  · rintro ⟨value, hvalue, htext⟩
    obtain ⟨hgiven, name, hname, hget⟩ := Lookup.mem_filledInValues.mp hvalue
    obtain ⟨hplace, rfl⟩ := (Value.mem_texts_of_isScalar (hscalars.isScalar hget)).mp htext
    obtain ⟨hempty, hblank⟩ := Lookup.isFilledIn_text.mp hgiven
    exact ⟨hplace, hempty, hblank, name, hname, hget⟩
  · rintro ⟨hplace, hempty, hblank, name, hname, hget⟩
    refine ⟨.text text.2, Lookup.mem_filledInValues.mpr ⟨?_, name, hname, hget⟩, ?_⟩
    · exact Lookup.isFilledIn_text.mpr ⟨hempty, hblank⟩
    · exact (Value.mem_texts_of_isScalar rfl).mpr ⟨hplace, rfl⟩

end Template

/-! ## Records -/

/-- What becomes of blank text and of unchecked marks in a record that a template gives.  Empty text
is nowhere.  An unchecked mark is under these keys if one of these fields holds nothing else, and
otherwise nowhere.  In plain fields both are replaced. -/
structure ReplacesMarks (template : Template) (keys names : List String) (sheet : Sheet)
    (record : Value) : Prop where
  blank : ∀ text ∈ record.texts, text.2 ≠ ""
  unchecked : ∀ place, (place, uncheckedMark) ∈ record.texts ↔
    place = keys ∧ ∃ name ∈ names, sheet.get? name = some (.text uncheckedMark)
  field : ∀ path name s, template.follow? path = some (.field name) →
    sheet.get? name = some (.text s) →
    (Text.trim s = "" → record.follow? path = some .null) ∧
      (Text.trim s = uncheckedMark → record.follow? path = some (.boolean false))

theorem Template.Filled.field {sheet : Sheet} {template : Template} {record : Value}
    (h : Filled sheet.source template record) {path : List String} {name s : String}
    (hfield : template.follow? path = some (.field name))
    (hget : sheet.get? name = some (.text s)) :
    record.follow? path = some (Value.text (Text.trim s)).normalized := by
  obtain ⟨found, hfound, hfilled⟩ := h.follow? hfield
  obtain ⟨raw, hread, rfl⟩ := (@filled_template_iff _ (.field name) _).mp hfilled
  cases hread
  have hsource : sheet.source.get? name = some (.text s) := hget
  rw [hfound, hsource]

section OneLooseLeaf

variable {sheet : Sheet} (hscalars : sheet.HoldsScalars)
variable {template : Template} {keys names : List String}
variable (hloose : template.looseLeaves = [(keys, .lookup .filledIn names)]) {record : Value}

include hscalars hloose

/-- A text in such a record is no mark, or the loose leaf has taken it over. -/
theorem Template.Filled.marks_or_loose (h : Filled sheet.source template record)
    {text : List String × String} (htext : text ∈ record.texts) :
    (text.2 ≠ "" ∧ text.2 ≠ uncheckedMark) ∨
      (text.1 = keys ∧ text.2 ≠ "" ∧ ∃ name ∈ names, sheet.get? name = some (.text text.2)) := by
  rw [h.texts_eq, List.mem_flatMap] at htext
  obtain ⟨⟨place, leaf⟩, hplaced, htext⟩ := htext
  obtain ⟨⟨inner, s⟩, hread, rfl⟩ := List.mem_map.mp htext
  cases hleaf : leaf.replacesMarks with
  | true =>
      have hmarks : s ≠ "" ∧ s ≠ uncheckedMark := Leaf.marks_of_mem_texts hleaf hscalars hread
      exact .inl hmarks
  | false =>
      have hmem : (place, leaf) ∈ template.looseLeaves :=
        List.mem_filter.mpr ⟨hplaced, by simp [hleaf]⟩
      rw [hloose] at hmem
      cases List.mem_singleton.mp hmem
      obtain ⟨hinner, hempty, -, hfield⟩ := (Leaf.mem_texts_filledIn hscalars).mp hread
      have hkeys : inner = [] := hinner
      exact .inr ⟨by simp [hkeys], hempty, hfield⟩

theorem Template.Filled.mem_texts_loose (h : Filled sheet.source template record)
    {name s : String} (hname : name ∈ names) (hget : sheet.get? name = some (.text s))
    (hempty : s ≠ "") (hblank : s ≠ Lookup.blankEntry) : (keys, s) ∈ record.texts := by
  have hmem : (keys, Leaf.lookup .filledIn names) ∈ template.looseLeaves := by
    rw [hloose]
    exact List.mem_cons_self
  rw [h.texts_eq, List.mem_flatMap]
  refine ⟨_, (List.mem_filter.mp hmem).1, List.mem_map.mpr ⟨([], s), ?_, by simp⟩⟩
  exact (Leaf.mem_texts_filledIn hscalars).mpr ⟨rfl, hempty, hblank, name, hname, hget⟩

theorem replacesMarks_of_looseLeaves (h : template.resolve sheet.source = .ok record) :
    ReplacesMarks template keys names sheet record := by
  have hfilled := Template.resolve_eq_ok_iff.mp h
  exact {
    blank := by
      intro text htext
      rcases hfilled.marks_or_loose hscalars hloose htext with hmarks | hkept
      · exact hmarks.1
      · exact hkept.2.1
    unchecked := by
      intro place
      constructor
      · intro htext
        rcases hfilled.marks_or_loose hscalars hloose htext with hmarks | hkept
        · exact absurd rfl hmarks.2
        · exact ⟨hkept.1, hkept.2.2⟩
      · rintro ⟨rfl, name, hname, hget⟩
        exact hfilled.mem_texts_loose hscalars hloose hname hget (by decide) (by decide)
    field := by
      intro path name s hfield hget
      rw [hfilled.field hfield hget]
      constructor
      · intro hblank
        rw [hblank]
        rfl
      · intro hmark
        rw [hmark]
        rfl }

end OneLooseLeaf

/-! ## The built-in formats -/

set_option maxRecDepth 10000 in
theorem looseLeaves_formExport :
    FormExport.template.looseLeaves = [(["data", "traits", "dr", "value"], .lookup .filledIn
      ["Resistance Damage Type 1", "Resistance Damage Type 2", "Resistance Damage Type 3",
        "Resistance Damage Type 4", "Resistance Damage Type 5"])] := by
  rfl

set_option maxRecDepth 10000 in
theorem looseLeaves_structuredExport :
    StructuredExport.template.looseLeaves =
      [(["data", "traits", "weaponProf", "value"], .lookup .filledIn
        ["proficiencylist.id-00001.name", "proficiencylist.id-00002.name",
          "proficiencylist.id-00003.name", "proficiencylist.id-00004.name",
          "proficiencylist.id-00005.name", "proficiencylist.id-00006.name"])] := by
  rfl

/-- The record of a sheet of scalars has no empty text, and `Off` only among the resistances of a
form and among the weapon proficiencies of a structured export.  There it stays just if one of the
fields is `Off` itself.  In plain fields blank text becomes null and `Off` false. -/
theorem builtIn_replacesMarks (sheet : Sheet) (hscalars : sheet.HoldsScalars) :
    (∀ imported, FormExport.format.run sheet.source = .ok imported →
      ReplacesMarks FormExport.format.template ["data", "traits", "dr", "value"]
        ["Resistance Damage Type 1", "Resistance Damage Type 2", "Resistance Damage Type 3",
          "Resistance Damage Type 4", "Resistance Damage Type 5"] sheet imported.actor) ∧
      ∀ imported, StructuredExport.format.run sheet.source = .ok imported →
        ReplacesMarks StructuredExport.format.template ["data", "traits", "weaponProf", "value"]
          ["proficiencylist.id-00001.name", "proficiencylist.id-00002.name",
            "proficiencylist.id-00003.name", "proficiencylist.id-00004.name",
            "proficiencylist.id-00005.name", "proficiencylist.id-00006.name"] sheet
          imported.actor := by
  constructor
  · intro imported h
    exact replacesMarks_of_looseLeaves hscalars looseLeaves_formExport
      (Format.run_eq_ok_iff.mp h).2.1
  · intro imported h
    exact replacesMarks_of_looseLeaves hscalars looseLeaves_structuredExport
      (Format.run_eq_ok_iff.mp h).2.1

/-- A form on which somebody has left a race blank and an inspiration unchecked, and has written the
mark of an unchecked box among the resistances. -/
def uncheckedForm : Sheet :=
  Sheet.ofPairs [
    ("Race", .text " "), ("Inspiration", .text "Off"), ("Resistance Damage Type 1", .text ""),
    ("Resistance Damage Type 2", .text "Off")]

theorem holdsScalars_uncheckedForm : uncheckedForm.HoldsScalars := by
  decide

set_option maxRecDepth 10000 in
theorem failure?_run_uncheckedForm :
    failure? (FormExport.format.run uncheckedForm.source) = none := by
  rfl

theorem builtIn_replacesMarks_uncheckedForm :
    uncheckedForm.HoldsScalars ∧ ∃ imported,
      FormExport.format.run uncheckedForm.source = .ok imported ∧
        ReplacesMarks FormExport.format.template ["data", "traits", "dr", "value"]
          ["Resistance Damage Type 1", "Resistance Damage Type 2", "Resistance Damage Type 3",
            "Resistance Damage Type 4", "Resistance Damage Type 5"] uncheckedForm
          imported.actor := by
  obtain ⟨imported, hrun⟩ := failure?_eq_none_iff.mp failure?_run_uncheckedForm
  refine ⟨holdsScalars_uncheckedForm, imported, hrun, ?_⟩
  exact (builtIn_replacesMarks uncheckedForm holdsScalars_uncheckedForm).1 imported hrun

/-- An unchecked mark can stay inside a list. -/
theorem unchecked_mark_can_stay :
    uncheckedForm.HoldsScalars ∧ ∃ imported,
      FormExport.format.run uncheckedForm.source = .ok imported ∧
        (["data", "traits", "dr", "value"], "Off") ∈ imported.actor.texts := by
  obtain ⟨imported, hrun⟩ := failure?_eq_none_iff.mp failure?_run_uncheckedForm
  refine ⟨holdsScalars_uncheckedForm, imported, hrun, ?_⟩
  have hreplaces := replacesMarks_of_looseLeaves holdsScalars_uncheckedForm looseLeaves_formExport
    (Format.run_eq_ok_iff.mp hrun).2.1
  exact (hreplaces.unchecked _).mpr ⟨rfl, "Resistance Damage Type 2", by decide, rfl⟩

end SheetImport
