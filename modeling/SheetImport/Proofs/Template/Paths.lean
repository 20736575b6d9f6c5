import SheetImport.Proofs.Template.Resolution

/-!
# Paths into templates and records

The keys that lead to a part of a template lead to the same part of every record made from it.  The
part of the record is that part of the template filled in, whatever stands beside it.
-/

namespace SheetImport

/-- Values under the same keys that are related one by one are found under the same names. -/
theorem Keyed.rel_get? {α β : Type} {R : α → β → Prop} {xs : Keyed α} {ys : Keyed β}
    (hkeys : ys.map Prod.fst = xs.map Prod.fst)
    (hvalues : List.Forall₂ (fun x y => R x.2 y.2) xs ys) (name : String) :
    Option.Rel R (get? xs name) (get? ys name) := by
  induction hvalues with
  | nil => exact .none
  | @cons x y xs ys hvalue _ ih =>
      rw [List.map_cons, List.map_cons, List.cons.injEq] at hkeys
      rw [get?, get?, hkeys.1]
      split
      case isTrue => exact .some hvalue
      case isFalse => exact ih hkeys.2

namespace Template

/-- The template for the member of that name, if the template is for a record that has one. -/
def member? : Template → String → Option Template
  | .subtree children, name => Keyed.get? children name
  | _, _ => none

/-- The part of a template that some names lead to, each of a member of the record before. -/
def follow? : Template → List String → Option Template
  | template, [] => some template
  | template, name :: rest => (template.member? name).bind (follow? · rest)

theorem Filled.member? {source : Source} {template child : Template} {value : Value}
    {name : String} (h : Filled source template value)
    (hchild : template.member? name = some child) :
    ∃ member, value.member? name = some member ∧ Filled source child member := by
  cases template with
  | subtree children =>
      obtain ⟨members, rfl, hkeys, hfilled⟩ := filled_subtree_iff.mp h
      have hrel := Keyed.rel_get? hkeys hfilled name
      rw [Template.member?] at hchild
      rw [hchild] at hrel
      generalize hmember : Keyed.get? members name = found at hrel
      cases hrel with
      | some hfilled => exact ⟨_, hmember, hfilled⟩
  | _ => cases hchild

theorem Filled.follow? {source : Source} {template part : Template} {value : Value}
    {path : List String} (h : Filled source template value)
    (hpart : template.follow? path = some part) :
    ∃ found, value.follow? path = some found ∧ Filled source part found := by
  induction path generalizing template value with
  | nil =>
      cases hpart
      exact ⟨value, rfl, h⟩
  | cons name rest ih =>
      obtain ⟨child, hchild, hrest⟩ := Option.bind_eq_some_iff.mp hpart
      obtain ⟨member, hmember, hfilled⟩ := h.member? hchild
      obtain ⟨found, hfound, hpart⟩ := ih hfilled hrest
      refine ⟨found, ?_, hpart⟩
      rw [Value.follow?, hmember]
      exact hfound

end Template

end SheetImport
