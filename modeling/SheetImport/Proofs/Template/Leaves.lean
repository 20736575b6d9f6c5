import SheetImport.Template.Basic

/-!
# Leaves of templates

The nodes of a template that hold no other templates are its leaves.  What a leaf reads from a sheet
is said here on its own, apart from the tree around it.  The leaves of a template stand in the order
in which a reader comes across them: those of a record in the order of its members, those of a list
in the order of its elements.
-/

namespace SheetImport

/-- The failure in a result. -/
def failure? {ε α : Type} : Except ε α → Option ε
  | .error e => some e
  | .ok _ => none

@[simp] theorem failure?_error {ε α : Type} (e : ε) :
    failure? (.error e : Except ε α) = some e := rfl

@[simp] theorem failure?_ok {ε α : Type} (value : α) :
    failure? (.ok value : Except ε α) = none := rfl

@[simp] theorem failure?_map {ε α β : Type} (f : α → β) (result : Except ε α) :
    failure? (result.map f) = failure? result := by
  cases result <;> rfl

theorem failure?_eq_some_iff {ε α : Type} {result : Except ε α} {e : ε} :
    failure? result = some e ↔ result = .error e := by
  cases result <;> simp

theorem failure?_eq_none_iff {ε α : Type} {result : Except ε α} :
    failure? result = none ↔ ∃ value, result = .ok value := by
  cases result <;> simp

namespace Template

/-- A node of a template that holds no other templates. -/
inductive Leaf
  | literal (value : Value)
  | field (name : String)
  | fieldOr (name : String) (fallback : Option Value)
  | lookup (way : Lookup) (names : List String)
  | computed (label : String) (compute : Source → Except ImportError Value)

namespace Leaf

/-- The template that consists of one leaf. -/
def template : Leaf → Template
  | literal value => .literal value
  | field name => .field name
  | fieldOr name fallback => .fieldOr name fallback
  | lookup way names => .lookup way names
  | computed label compute => .computed label compute

/-- What a leaf reads, before it is normalized.  An absent field is null, and text in a plain field
loses the white space at its ends.  A field with something to fall back on keeps its value as it is
when it counts as given.  Only lookups and computed leaves can fail. -/
def read (source : Source) : Leaf → Except ImportError Value
  | literal value => .ok value
  | field name =>
      .ok (match source.get? name with
        | some (.text s) => .text (Text.trim s)
        | some value => value
        | none => .null)
  | fieldOr name fallback =>
      .ok (match source.get? name with
        | some value => if value.isTruthy then value else fallback.getD .null
        | none => fallback.getD .null)
  | lookup way names => way.apply source names
  | computed _ compute => compute source

theorem template_injective : Function.Injective template := by
  intro left right heq
  cases left <;> cases right <;> simp_all [template]

end Leaf

mutual

/-- The leaves of a template, in order. -/
def leaves : Template → List Leaf
  | .literal value => [.literal value]
  | .field name => [.field name]
  | .fieldOr name fallback => [.fieldOr name fallback]
  | .lookup way names => [.lookup way names]
  | .computed label compute => [.computed label compute]
  | .subtree children => childLeaves children
  | .array elements => elementLeaves elements

/-- The leaves of the members of a record. -/
def childLeaves : List (String × Template) → List Leaf
  | [] => []
  | (_, child) :: rest => leaves child ++ childLeaves rest

/-- The leaves of the elements of a list. -/
def elementLeaves : List Template → List Leaf
  | [] => []
  | element :: rest => leaves element ++ elementLeaves rest

end

@[simp] theorem leaves_template (leaf : Leaf) : leaf.template.leaves = [leaf] := by
  cases leaf <;> rfl

@[simp] theorem leaves_subtree (children : List (String × Template)) :
    (subtree children).leaves = children.flatMap fun child => child.2.leaves := by
  rw [leaves]
  induction children with
  | nil => rfl
  | cons child rest ih => rw [childLeaves, ih, List.flatMap_cons]

@[simp] theorem leaves_array (elements : List Template) :
    (array elements).leaves = elements.flatMap leaves := by
  rw [leaves]
  induction elements with
  | nil => rfl
  | cons element rest ih => rw [elementLeaves, ih, List.flatMap_cons]

/-- Induction over a template.  Its nodes are leaves, records and lists, and the motive may be assumed
of everything that a record or a list holds. -/
@[elab_as_elim]
theorem leafInduction {motive : Template → Prop}
    (leaf : ∀ leaf : Leaf, motive leaf.template)
    (subtree : ∀ children : List (String × Template),
      (∀ child ∈ children, motive child.2) → motive (.subtree children))
    (array : ∀ elements : List Template,
      (∀ element ∈ elements, motive element) → motive (.array elements))
    (template : Template) : motive template :=
  Template.rec (motive_1 := motive)
    (motive_2 := fun children => ∀ child ∈ children, motive child.2)
    (motive_3 := fun elements => ∀ element ∈ elements, motive element)
    (motive_4 := fun child => motive child.2)
    (fun value => leaf (.literal value)) (fun name => leaf (.field name))
    (fun name fallback => leaf (.fieldOr name fallback))
    (fun way names => leaf (.lookup way names))
    (fun label compute => leaf (.computed label compute))
    subtree array
    (by simp)
    (fun _ _ hchild hrest => by simpa using And.intro hchild hrest)
    (by simp)
    (fun _ _ helement hrest => by simpa using And.intro helement hrest)
    (fun _ _ hchild => hchild) template

end Template

end SheetImport
