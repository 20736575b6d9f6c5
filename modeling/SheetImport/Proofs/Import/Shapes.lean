import SheetImport.Proofs.Import.Blanks
import SheetImport.Proofs.Template.Shapes

/-!
# The shape of imported actors

The two built-in templates read different fields and agree on every key of the record they make.
From a sheet of scalars no leaf of theirs reads a record, so all actors have this one shape.
-/

namespace SheetImport

theorem Value.shape_of_isScalar {value : Value} (h : value.isScalar) : value.shape = .plain := by
  cases value with
  | object members => cases h
  | _ => rfl

/-- A lookup makes a list or a number. -/
theorem Lookup.shape_of_apply {way : Lookup} {source : Source} {names : List String} {raw : Value}
    (h : way.apply source names = .ok raw) : raw.shape = .plain := by
  cases way with
  | filledIn => cases h; rfl
  | filledInLowercase =>
      obtain ⟨lowered, -, rfl⟩ := exists_of_map_eq_ok h
      rfl
  | checkbox => rcases names with _ | ⟨name, _ | _⟩ <;> cases h; rfl
  | checkedCount => cases h; rfl

namespace Template

/-- Whether a leaf reads no record from a sheet of scalars. -/
def Leaf.isPlain : Leaf → Bool
  | .literal value => value.members?.isNone
  | .field _ => true
  | .fieldOr _ fallback => fallback.all fun value => value.members?.isNone
  | .lookup _ _ => true
  | .computed _ _ => false

theorem Leaf.shape_of_read {leaf : Leaf} (hplain : leaf.isPlain) {sheet : Sheet}
    (hscalars : sheet.HoldsScalars) {raw : Value} (hread : leaf.read sheet.source = .ok raw) :
    raw.shape = .plain := by
  cases leaf with
  | literal value =>
      cases hread
      exact Value.shape_eq_plain_iff.mpr (Option.isNone_iff_eq_none.mp hplain)
  | field name => exact Value.shape_of_isScalar (isScalar_of_read_field hscalars hread)
  | fieldOr name fallback =>
      have hfallback : (fallback.getD .null).shape = .plain := by
        cases fallback with
        | none => rfl
        | some value => exact Value.shape_eq_plain_iff.mpr (Option.isNone_iff_eq_none.mp hplain)
      cases hread
      split
      case h_1 value hvalue =>
        split_ifs
        · exact Value.shape_of_isScalar (hscalars.isScalar hvalue)
        · exact hfallback
      case h_2 => exact hfallback
  | lookup way names => exact Lookup.shape_of_apply hread
  | computed label compute => cases hplain

/-- A record made from a sheet of scalars has the shape of its template. -/
theorem shape_of_resolve {template : Template} (hplain : template.leaves.all Leaf.isPlain)
    {sheet : Sheet} (hscalars : sheet.HoldsScalars) {record : Value}
    (h : template.resolve sheet.source = .ok record) : record.shape = template.shape := by
  apply (resolve_eq_ok_iff.mp h).shape_eq
  intro leaf hleaf raw hread
  exact Leaf.shape_of_read (List.all_eq_true.mp hplain leaf hleaf) hscalars hread

end Template

/-! ## The built-in formats -/

set_option maxRecDepth 10000 in
theorem all_isPlain_formExport :
    FormExport.template.leaves.all Template.Leaf.isPlain = true := by
  rfl

set_option maxRecDepth 10000 in
theorem all_isPlain_structuredExport :
    StructuredExport.template.leaves.all Template.Leaf.isPlain = true := by
  rfl

set_option maxRecDepth 10000 in
theorem shape_structuredExport : StructuredExport.template.shape = FormExport.template.shape := by
  rfl

theorem shape_of_run {format : Format} (hformat : format ∈ Registry.builtIn) {sheet : Sheet}
    (hscalars : sheet.HoldsScalars) {imported : Imported}
    (h : format.run sheet.source = .ok imported) :
    imported.actor.shape = FormExport.template.shape := by
  have hresolve := (Format.run_eq_ok_iff.mp h).2.1
  simp only [Registry.builtIn, List.mem_cons, List.not_mem_nil, or_false] at hformat
  rcases hformat with rfl | rfl
  · exact Template.shape_of_resolve all_isPlain_formExport hscalars hresolve
  · calc
      imported.actor.shape = StructuredExport.template.shape :=
        Template.shape_of_resolve all_isPlain_structuredExport hscalars hresolve
      _ = FormExport.template.shape := shape_structuredExport

/-- Any two imports of sheets of scalars, in the same built-in format or in different ones, give
actors with the same keys in the same order at every depth. -/
theorem builtIn_actors_share_shape {first second : Sheet} (hfirst : first.HoldsScalars)
    (hsecond : second.HoldsScalars) {one other : Format} (hone : one ∈ Registry.builtIn)
    (hother : other ∈ Registry.builtIn) {left right : Imported}
    (hleft : one.run first.source = .ok left) (hright : other.run second.source = .ok right) :
    left.actor.shape = right.actor.shape :=
  calc
    left.actor.shape = FormExport.template.shape := shape_of_run hone hfirst hleft
    _ = right.actor.shape := (shape_of_run hother hsecond hright).symm

/-- A structured export of a character with a language, a proficiency and a field that no template
reads. -/
def languageExport : Sheet :=
  Sheet.ofPairs [
    ("name", .text " Ayla "), ("languagelist.id-00001.name", .text "Elvish"),
    ("proficiencylist.id-00002.name", .text ""), ("notes", .boolean true)]

theorem holdsScalars_languageExport : languageExport.HoldsScalars := by
  decide

set_option maxRecDepth 10000 in
theorem failure?_run_languageExport :
    failure? (StructuredExport.format.run languageExport.source) = none := by
  rfl

/-- A form with unchecked boxes and a structured export with languages lead to the same shape. -/
theorem builtIn_actors_share_shape_uncheckedForm :
    uncheckedForm.HoldsScalars ∧ languageExport.HoldsScalars ∧ ∃ left right,
      FormExport.format.run uncheckedForm.source = .ok left ∧
        StructuredExport.format.run languageExport.source = .ok right ∧
          left.actor.shape = right.actor.shape := by
  obtain ⟨left, hleft⟩ := failure?_eq_none_iff.mp failure?_run_uncheckedForm
  obtain ⟨right, hright⟩ := failure?_eq_none_iff.mp failure?_run_languageExport
  have hform : FormExport.format ∈ Registry.builtIn := List.mem_cons_self
  have hexport : StructuredExport.format ∈ Registry.builtIn :=
    List.mem_cons_of_mem _ List.mem_cons_self
  refine ⟨holdsScalars_uncheckedForm, holdsScalars_languageExport, left, right, hleft, hright, ?_⟩
  exact builtIn_actors_share_shape holdsScalars_uncheckedForm holdsScalars_languageExport hform
    hexport hleft hright

end SheetImport
