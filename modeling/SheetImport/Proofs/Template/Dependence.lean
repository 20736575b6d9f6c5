import SheetImport.Proofs.Template.Resolution

/-!
# What a template depends on

A template names the fields that its leaves read, except that nothing is known of what a computed
leaf reads.  Two sources that hold the same under these names cannot be told apart by a template
without computed leaves: neither by the record it makes nor by the failure it ends with.
-/

namespace SheetImport

/-- Whether two sources hold the same under some names: the same value, or both nothing. -/
def AgreeOn (names : List String) (first second : Source) : Prop :=
  ∀ name ∈ names, first.get? name = second.get? name

theorem AgreeOn.mono {names fewer : List String} {first second : Source}
    (h : AgreeOn names first second) (hfewer : fewer ⊆ names) : AgreeOn fewer first second :=
  fun name hname => h name (hfewer hname)

namespace Lookup

theorem filledInValues_congr {names : List String} {first second : Source}
    (h : AgreeOn names first second) :
    filledInValues first names = filledInValues second names := by
  rw [filledInValues, filledInValues]
  congr 1
  exact List.filterMap_congr h

theorem isChecked_congr {name : String} {first second : Source}
    (h : first.get? name = second.get? name) : isChecked first name = isChecked second name := by
  rw [isChecked, isChecked, h]

theorem countChecked_congr {names : List String} {first second : Source}
    (h : AgreeOn names first second) : countChecked first names = countChecked second names := by
  rw [countChecked, countChecked]
  congr 1
  apply List.countP_congr
  intro name hname
  rw [isChecked_congr (h name hname)]

/-- A lookup reads no fields but those it is given. -/
theorem apply_congr (way : Lookup) {names : List String} {first second : Source}
    (h : AgreeOn names first second) : way.apply first names = way.apply second names := by
  cases way with
  | filledIn => rw [apply, apply, filledInValues_congr h]
  | filledInLowercase => rw [apply, apply, filledInValues_congr h]
  | checkbox =>
      -- With any number of names but one the failure does not depend on the fields at all.
      rcases names with _ | ⟨name, _ | _⟩
      · rfl
      · rw [apply, apply, checkboxNumber, checkboxNumber,
          isChecked_congr (h name List.mem_cons_self)]
      · rfl
  | checkedCount => rw [apply, apply, countChecked_congr h]

end Lookup

namespace Template

/-- The fields that a leaf names. -/
def Leaf.names : Leaf → List String
  | .literal _ => []
  | .field name => [name]
  | .fieldOr name _ => [name]
  | .lookup _ names => names
  | .computed _ _ => []

def Leaf.isComputed : Leaf → Bool
  | .computed _ _ => true
  | _ => false

/-- The fields that the leaves of a template name, in order and with repetitions. -/
def names (template : Template) : List String :=
  template.leaves.flatMap Leaf.names

/-- Whether a template consists of literals, fields, lookups, records and lists alone. -/
def isTransparent (template : Template) : Bool :=
  template.leaves.all fun leaf => !leaf.isComputed

theorem Leaf.read_congr {leaf : Leaf} (hleaf : leaf.isComputed = false) {first second : Source}
    (h : AgreeOn leaf.names first second) : leaf.read first = leaf.read second := by
  cases leaf with
  | literal value => rfl
  | field name => rw [read, read, h name List.mem_cons_self]
  | fieldOr name fallback => rw [read, read, h name List.mem_cons_self]
  | lookup way names => exact way.apply_congr h
  | computed label compute => cases hleaf

theorem resolveChildren_congr {first second : Source} {children : List (String × Template)}
    (h : ∀ child ∈ children, resolve first child.2 = resolve second child.2) :
    resolveChildren first children = resolveChildren second children := by
  induction children with
  | nil => rfl
  | cons child rest ih =>
      rw [resolveChildren, resolveChildren, h child List.mem_cons_self,
        ih fun other hother => h other (List.mem_cons_of_mem _ hother)]

theorem resolveElements_congr {first second : Source} {elements : List Template}
    (h : ∀ element ∈ elements, resolve first element = resolve second element) :
    resolveElements first elements = resolveElements second elements := by
  induction elements with
  | nil => rfl
  | cons element rest ih =>
      rw [resolveElements, resolveElements, h element List.mem_cons_self,
        ih fun other hother => h other (List.mem_cons_of_mem _ hother)]

/-- A template sees no more of a sheet than its leaves do. -/
theorem resolve_eq_of_read_eq {first second : Source} {template : Template}
    (h : ∀ leaf ∈ template.leaves, leaf.read first = leaf.read second) :
    template.resolve first = template.resolve second := by
  induction template using leafInduction with
  | leaf leaf => rw [resolve_template, resolve_template, h leaf (by simp)]
  | subtree children ih =>
      rw [leaves_subtree] at h
      rw [resolve, resolve, resolveChildren_congr]
      intro child hchild
      apply ih child hchild
      intro leaf hleaf
      exact h leaf (List.mem_flatMap_of_mem hchild hleaf)
  | array elements ih =>
      rw [leaves_array] at h
      rw [resolve, resolve, resolveElements_congr]
      intro element helement
      apply ih element helement
      intro leaf hleaf
      exact h leaf (List.mem_flatMap_of_mem helement hleaf)

/-- Without computed leaves, what a template resolves to depends on its own fields only. -/
theorem resolve_congr {template : Template} (htransparent : template.isTransparent)
    {first second : Source} (h : AgreeOn template.names first second) :
    template.resolve first = template.resolve second := by
  apply resolve_eq_of_read_eq
  intro leaf hleaf
  apply Leaf.read_congr
  · simpa using List.all_eq_true.mp htransparent leaf hleaf
  · exact h.mono fun _ hname => List.mem_flatMap_of_mem hleaf hname

end Template

end SheetImport
