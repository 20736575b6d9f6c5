import SheetImport.Proofs.Template.Resolution

/-!
# Shapes of templates and records

The shape of a record is the tree of its keys.  Resolving a template keeps the template's shape as
long as no leaf brings a record of its own: a failing leaf leaves no record at all, and whatever is
dropped is dropped from a list, which has no keys.
-/

namespace SheetImport

/-- The keys of a record, in order, each with the shape of what stands under it.  Whatever is no
record, lists included, has no keys. -/
inductive Shape
  | plain
  | record (members : List (String × Shape))

namespace Value

mutual

def shape : Value → Shape
  | .object members => .record (memberShapes members)
  | .null => .plain
  | .boolean _ => .plain
  | .integer _ => .plain
  | .float _ => .plain
  | .text _ => .plain
  | .list _ => .plain

def memberShapes : List (String × Value) → List (String × Shape)
  | [] => []
  | (key, value) :: rest => (key, shape value) :: memberShapes rest

end

theorem shape_object (members : List (String × Value)) :
    (object members).shape = .record (members.map fun member => (member.1, member.2.shape)) := by
  rw [shape]
  congr 1
  induction members with
  | nil => rfl
  | cons member rest ih => rw [memberShapes, ih, List.map_cons]

theorem shape_eq_plain_iff {value : Value} : value.shape = .plain ↔ value.members? = none := by
  cases value <;> simp [shape, members?]

@[simp] theorem shape_normalized (value : Value) : value.normalized.shape = value.shape := by
  cases value with
  | text s => rw [normalized]; split_ifs <;> rfl
  | _ => rfl

end Value

namespace Template

mutual

/-- The keys of a template for a record.  Leaves and lists have none. -/
def shape : Template → Shape
  | .subtree children => .record (childShapes children)
  | .literal _ => .plain
  | .field _ => .plain
  | .fieldOr _ _ => .plain
  | .lookup _ _ => .plain
  | .computed _ _ => .plain
  | .array _ => .plain

def childShapes : List (String × Template) → List (String × Shape)
  | [] => []
  | (key, child) :: rest => (key, shape child) :: childShapes rest

end

theorem shape_subtree (children : List (String × Template)) :
    (subtree children).shape = .record (children.map fun child => (child.1, child.2.shape)) := by
  rw [shape]
  congr 1
  induction children with
  | nil => rfl
  | cons child rest ih => rw [childShapes, ih, List.map_cons]

@[simp] theorem shape_template (leaf : Leaf) : leaf.template.shape = .plain := by
  cases leaf <;> rfl

/-- Members under the template's keys that have the shapes of its parts. -/
theorem map_shape_members {children : List (String × Template)} {members : List (String × Value)}
    (hkeys : members.map Prod.fst = children.map Prod.fst)
    (hshapes : List.Forall₂ (fun child member => member.2.shape = child.2.shape)
      children members) :
    (members.map fun member => (member.1, member.2.shape)) =
      children.map fun child => (child.1, child.2.shape) := by
  induction hshapes with
  | nil => rfl
  | cons hshape _ ih =>
      rw [List.map_cons, List.map_cons, List.cons.injEq] at hkeys
      rw [List.map_cons, List.map_cons, hshape, hkeys.1, ih hkeys.2]

/-- A template filled in has the template's shape if what its leaves read has no keys. -/
theorem Filled.shape_eq {source : Source} {template : Template} {value : Value}
    (h : Filled source template value)
    (hplain : ∀ leaf ∈ template.leaves, ∀ raw, leaf.read source = .ok raw → raw.shape = .plain) :
    value.shape = template.shape := by
  induction template using leafInduction generalizing value with
  | leaf leaf =>
      obtain ⟨raw, hread, rfl⟩ := filled_template_iff.mp h
      rw [Value.shape_normalized, shape_template]
      exact hplain leaf (by simp) raw hread
  | subtree children ih =>
      obtain ⟨members, rfl, hkeys, hfilled⟩ := filled_subtree_iff.mp h
      rw [Value.shape_object, shape_subtree]
      congr 1
      apply map_shape_members hkeys
      have hboth := (List.forall₂_and_left children members).mpr ⟨fun _ hchild => hchild, hfilled⟩
      apply hboth.imp
      rintro child member ⟨hchild, hmember⟩
      apply ih child hchild hmember
      intro leaf hleaf
      apply hplain leaf
      rw [leaves_subtree]
      exact List.mem_flatMap_of_mem hchild hleaf
  | array elements =>
      obtain ⟨values, rfl, -⟩ := filled_array_iff.mp h
      rfl

end Template

end SheetImport
