import SheetImport.Proofs.Template.Resolution

/-!
# Texts in a record

A record made from a template contains the texts that the template's leaves read, and no others.
They stand where the leaves stand and come in the order of the leaves.
-/

namespace SheetImport

/-- Something that stands under some keys, inside the member of that name of one more record. -/
def under {α : Type} (key : String) (placed : List String × α) : List String × α :=
  (key :: placed.1, placed.2)

namespace Value

mutual

/-- The texts in a value, in order.  Each comes with the keys that lead to it through records; a
list adds no key. -/
def texts : Value → List (List String × String)
  | .null => []
  | .boolean _ => []
  | .integer _ => []
  | .float _ => []
  | .text s => [([], s)]
  | .list items => itemTexts items
  | .object members => memberTexts members

/-- The texts in the items of a list. -/
def itemTexts : List Value → List (List String × String)
  | [] => []
  | item :: rest => texts item ++ itemTexts rest

/-- The texts in the members of a record. -/
def memberTexts : List (String × Value) → List (List String × String)
  | [] => []
  | (key, item) :: rest => (texts item).map (under key) ++ memberTexts rest

end

@[simp] theorem texts_list (items : List Value) : (list items).texts = items.flatMap texts := by
  rw [texts]
  induction items with
  | nil => rfl
  | cons item rest ih => rw [itemTexts, ih, List.flatMap_cons]

@[simp] theorem texts_object (members : List (String × Value)) :
    (object members).texts = members.flatMap fun member => member.2.texts.map (under member.1) := by
  rw [texts]
  induction members with
  | nil => rfl
  | cons member rest ih => rw [memberTexts, ih, List.flatMap_cons]

/-- A value that does not count as given holds no text other than empty text. -/
theorem texts_normalized_of_not_isTruthy {value : Value} (h : ¬value.normalized.isTruthy) :
    value.normalized.texts = [] := by
  cases value with
  | text s =>
      rw [normalized] at h ⊢
      split at h
      case isTrue hmark => rw [if_pos hmark]; rfl
      case isFalse hmark =>
        rw [if_neg hmark]
        split at h
        case isTrue hempty => rw [if_pos hempty]; rfl
        case isFalse hempty => simp [isTruthy, hempty] at h
  | list items => exact absurd rfl h
  | object members => exact absurd rfl h
  | _ => rfl

end Value

namespace Template

/-- The texts in what a leaf reads; none if it fails. -/
def Leaf.texts (source : Source) (leaf : Leaf) : List (List String × String) :=
  match leaf.read source with
  | .ok value => value.normalized.texts
  | .error _ => []

mutual

/-- The leaves of a template, in order.  Each comes with the keys that lead to it through
records. -/
def placedLeaves : Template → List (List String × Leaf)
  | .literal value => [([], .literal value)]
  | .field name => [([], .field name)]
  | .fieldOr name fallback => [([], .fieldOr name fallback)]
  | .lookup way names => [([], .lookup way names)]
  | .computed label compute => [([], .computed label compute)]
  | .subtree children => placedChildLeaves children
  | .array elements => placedElementLeaves elements

/-- The leaves of the members of a record. -/
def placedChildLeaves : List (String × Template) → List (List String × Leaf)
  | [] => []
  | (key, child) :: rest => (placedLeaves child).map (under key) ++ placedChildLeaves rest

/-- The leaves of the elements of a list. -/
def placedElementLeaves : List Template → List (List String × Leaf)
  | [] => []
  | element :: rest => placedLeaves element ++ placedElementLeaves rest

end

@[simp] theorem placedLeaves_template (leaf : Leaf) :
    leaf.template.placedLeaves = [([], leaf)] := by
  cases leaf <;> rfl

@[simp] theorem placedLeaves_subtree (children : List (String × Template)) :
    (subtree children).placedLeaves =
      children.flatMap fun child => child.2.placedLeaves.map (under child.1) := by
  rw [placedLeaves]
  induction children with
  | nil => rfl
  | cons child rest ih => rw [placedChildLeaves, ih, List.flatMap_cons]

@[simp] theorem placedLeaves_array (elements : List Template) :
    (array elements).placedLeaves = elements.flatMap placedLeaves := by
  rw [placedLeaves]
  induction elements with
  | nil => rfl
  | cons element rest ih => rw [placedElementLeaves, ih, List.flatMap_cons]

/-- The texts that a leaf under some keys reads, under the same keys. -/
def placedTexts (source : Source) (placed : List String × Leaf) : List (List String × String) :=
  (placed.2.texts source).map fun text => (placed.1 ++ text.1, text.2)

theorem placedTexts_under (source : Source) (key : String) (placed : List String × Leaf) :
    placedTexts source (under key placed) = (placedTexts source placed).map (under key) := by
  rw [placedTexts, placedTexts, List.map_map]
  rfl

theorem Filled.texts_of_not_isTruthy {source : Source} {template : Template} {value : Value}
    (h : Filled source template value) (hnot : ¬value.isTruthy) : value.texts = [] := by
  cases h with
  | leaf _ _ hnormal =>
      rw [Value.normalForm_iff.mp hnormal] at hnot ⊢
      exact Value.texts_normalized_of_not_isTruthy hnot
  | subtree => exact absurd rfl hnot
  | array => exact absurd rfl hnot

/-- What does not count as given holds no texts, so dropping it from a list drops none. -/
theorem flatMap_texts_filter {source : Source} {elements : List Template} {values : List Value}
    (h : List.Forall₂ (Filled source) elements values) :
    (values.filter Value.isTruthy).flatMap Value.texts = values.flatMap Value.texts := by
  induction h with
  | nil => rfl
  | @cons element value _ rest hvalue _ ih =>
      rw [List.flatMap_cons, List.filter_cons]
      split
      case isTrue => rw [List.flatMap_cons, ih]
      case isFalse hnot => rw [ih, hvalue.texts_of_not_isTruthy hnot, List.nil_append]

theorem flatMap_texts_elements {source : Source} {elements : List Template} {values : List Value}
    (h : List.Forall₂ (fun element value =>
      value.texts = element.placedLeaves.flatMap (placedTexts source)) elements values) :
    values.flatMap Value.texts =
      elements.flatMap fun element => element.placedLeaves.flatMap (placedTexts source) := by
  induction h with
  | nil => rfl
  | cons hvalue _ ih => rw [List.flatMap_cons, List.flatMap_cons, hvalue, ih]

theorem flatMap_texts_members {source : Source} {children : List (String × Template)}
    {members : List (String × Value)} (hkeys : members.map Prod.fst = children.map Prod.fst)
    (h : List.Forall₂ (fun child member =>
      member.2.texts = child.2.placedLeaves.flatMap (placedTexts source)) children members) :
    (members.flatMap fun member => member.2.texts.map (under member.1)) =
      children.flatMap fun child =>
        (child.2.placedLeaves.map (under child.1)).flatMap (placedTexts source) := by
  induction h with
  | nil => rfl
  | cons hmember _ ih =>
      rw [List.map_cons, List.map_cons, List.cons.injEq] at hkeys
      rw [List.flatMap_cons, List.flatMap_cons, hmember, ih hkeys.2, List.map_flatMap,
        List.flatMap_map, hkeys.1]
      simp only [placedTexts_under]

/-- The texts in a template filled in are those that its leaves read, each where its leaf stands. -/
theorem Filled.texts_eq {source : Source} {template : Template} {value : Value}
    (h : Filled source template value) :
    value.texts = template.placedLeaves.flatMap (placedTexts source) := by
  induction template using leafInduction generalizing value with
  | leaf leaf =>
      obtain ⟨raw, hread, rfl⟩ := filled_template_iff.mp h
      simp [placedTexts, Leaf.texts, hread]
  | subtree children ih =>
      obtain ⟨members, rfl, hkeys, hfilled⟩ := filled_subtree_iff.mp h
      rw [Value.texts_object, placedLeaves_subtree, List.flatMap_assoc]
      apply flatMap_texts_members hkeys
      have hboth := (List.forall₂_and_left children members).mpr ⟨ih, hfilled⟩
      exact hboth.imp fun _ _ hmember => hmember.1 hmember.2
  | array elements ih =>
      obtain ⟨values, rfl, hfilled⟩ := filled_array_iff.mp h
      rw [Value.texts_list, placedLeaves_array, List.flatMap_assoc, flatMap_texts_filter hfilled]
      apply flatMap_texts_elements
      have hboth := (List.forall₂_and_left elements values).mpr ⟨ih, hfilled⟩
      exact hboth.imp fun _ _ helement => helement.1 helement.2

end Template

end SheetImport
