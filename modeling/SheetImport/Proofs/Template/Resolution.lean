import Mathlib.Data.List.Forall2
import SheetImport.Proofs.Template.Readings

/-!
# What resolving a template gives

Resolving walks over the tree of a template, and failures, normalization and the dropping of list
elements all happen on the way.  The result can be told without that walk.  First the leaves are read
in their order: if one of them fails, the first failure is the result.  If none fails, the result is
the template with every leaf filled in.  What a leaf reads, which value that stands for and which
elements a list leaves out are all said by rules, not by the functions that resolving calls.
-/

namespace SheetImport.Template

/-- The first failure of some leaves, in their order. -/
def FirstFailure (source : Source) (leaves : List Leaf) (e : ImportError) : Prop :=
  ∃ before leaf after, leaves = before ++ leaf :: after ∧
    (∀ other ∈ before, ∃ value, other.Reads source (.ok value)) ∧ leaf.Reads source (.error e)

/-- A value that a template has when every leaf is filled in.  A leaf has the normal form of what it
reads.  A record keeps the template's keys in their order.  A list leaves out those of its elements,
filled in themselves, that are falsy. -/
inductive Filled (source : Source) : Template → Value → Prop
  | leaf {template : Template} {leaf : Leaf} {raw value : Value} (hleaf : template = leaf.template)
      (hreads : leaf.Reads source (.ok raw)) (hnormal : raw.NormalForm value) :
      Filled source template value
  | subtree {children : List (String × Template)} {members : List (String × Value)}
      (hkeys : members.map Prod.fst = children.map Prod.fst)
      (hfilled : List.Forall₂ (fun child member => Filled source child.2 member.2)
        children members) :
      Filled source (.subtree children) (.object members)
  | array {elements : List Template} {values : List Value}
      (hfilled : List.Forall₂ (Filled source) elements values) :
      Filled source (.array elements) (.list (values.filter fun value => ¬value.IsFalsy))

theorem filter_not_isFalsy (values : List Value) :
    (values.filter fun value => ¬value.IsFalsy) = values.filter Value.isTruthy :=
  List.filter_congr fun value _ => value.decide_not_isFalsy

theorem filled_template_iff {source : Source} {leaf : Leaf} {value : Value} :
    Filled source leaf.template value ↔
      ∃ raw, leaf.read source = .ok raw ∧ value = raw.normalized := by
  constructor
  · intro h
    generalize htemplate : leaf.template = template at h
    cases h with
    | leaf hleaf hreads hnormal =>
        have heq := Leaf.template_injective (htemplate.trans hleaf)
        subst heq
        exact ⟨_, Leaf.reads_iff.mp hreads, Value.normalForm_iff.mp hnormal⟩
    | subtree => cases leaf <;> simp [Leaf.template] at htemplate
    | array => cases leaf <;> simp [Leaf.template] at htemplate
  · rintro ⟨raw, hread, rfl⟩
    exact .leaf rfl (Leaf.reads_iff.mpr hread) (Value.normalForm_iff.mpr rfl)

theorem filled_subtree_iff {source : Source} {children : List (String × Template)}
    {value : Value} :
    Filled source (.subtree children) value ↔
      ∃ members, value = .object members ∧ members.map Prod.fst = children.map Prod.fst ∧
        List.Forall₂ (fun child member => Filled source child.2 member.2) children members := by
  constructor
  · intro h
    cases h with
    | leaf hleaf => rename_i leaf _ _ _; cases leaf <;> simp [Leaf.template] at hleaf
    | subtree hkeys hfilled => exact ⟨_, rfl, hkeys, hfilled⟩
  · rintro ⟨members, rfl, hkeys, hfilled⟩
    exact .subtree hkeys hfilled

theorem filled_array_iff {source : Source} {elements : List Template} {value : Value} :
    Filled source (.array elements) value ↔
      ∃ values, value = .list (values.filter Value.isTruthy) ∧
        List.Forall₂ (Filled source) elements values := by
  constructor
  · intro h
    cases h with
    | leaf hleaf => rename_i leaf _ _ _; cases leaf <;> simp [Leaf.template] at hleaf
    | array hfilled => exact ⟨_, congrArg _ (filter_not_isFalsy _), hfilled⟩
  · rintro ⟨values, rfl, hfilled⟩
    rw [← filter_not_isFalsy]
    exact .array hfilled

/-! ## Resolving, node by node -/

theorem resolve_template (source : Source) (leaf : Leaf) :
    resolve source leaf.template = (leaf.read source).map Value.normalized := by
  cases leaf with
  | literal value => rfl
  | field name =>
      rw [Leaf.template, resolve, fieldValue, Leaf.read]
      cases source.get? name with
      | none => rfl
      | some value => cases value <;> rfl
  | fieldOr name fallback =>
      rw [Leaf.template, resolve, fieldOrValue, Leaf.read]
      cases source.get? name with
      | none => rfl
      | some value => by_cases hgiven : value.isTruthy <;> simp [hgiven, Option.filter, Except.map]
  | lookup way names => rfl
  | computed label compute => rfl

theorem resolveChildren_eq_ok_iff {source : Source} {children : List (String × Template)}
    {members : List (String × Value)} :
    resolveChildren source children = .ok members ↔
      members.map Prod.fst = children.map Prod.fst ∧
        List.Forall₂ (fun child member => resolve source child.2 = .ok member.2)
          children members := by
  induction children generalizing members with
  | nil => cases members <;> simp [resolveChildren]
  | cons child rest ih =>
      rw [resolveChildren]
      cases hchild : resolve source child.2 with
      | error e => cases members <;> simp [hchild]
      | ok value =>
          cases members with
          | nil => cases resolveChildren source rest <;> simp
          | cons member more =>
              rw [List.map_cons, List.map_cons, List.cons.injEq, List.forall₂_cons,
                and_and_and_comm, ← ih, hchild]
              cases resolveChildren source rest with
              | error e => simp
              | ok others => simp [Prod.ext_iff, eq_comm]

theorem resolveElements_eq_ok_iff {source : Source} {elements : List Template}
    {values : List Value} :
    resolveElements source elements = .ok values ↔
      List.Forall₂ (fun element value => resolve source element = .ok value) elements values := by
  induction elements generalizing values with
  | nil => cases values <;> simp [resolveElements]
  | cons element rest ih =>
      rw [resolveElements]
      cases helement : resolve source element with
      | error e => cases values <;> simp [helement]
      | ok value =>
          cases values with
          | nil => cases resolveElements source rest <;> simp
          | cons other more =>
              cases hrest : resolveElements source rest with
              | error e => simp [helement, ← ih, hrest]
              | ok others => simp [helement, ← ih, hrest]

theorem failure?_resolveChildren (source : Source) (children : List (String × Template)) :
    failure? (resolveChildren source children) =
      children.findSome? fun child => failure? (resolve source child.2) := by
  induction children with
  | nil => rfl
  | cons child rest ih =>
      rw [resolveChildren, List.findSome?_cons]
      cases resolve source child.2 with
      | error e => rfl
      | ok value =>
          rw [failure?_ok, ← ih]
          cases resolveChildren source rest <;> rfl

theorem failure?_resolveElements (source : Source) (elements : List Template) :
    failure? (resolveElements source elements) =
      elements.findSome? fun element => failure? (resolve source element) := by
  induction elements with
  | nil => rfl
  | cons element rest ih =>
      rw [resolveElements, List.findSome?_cons]
      cases resolve source element with
      | error e => rfl
      | ok value =>
          rw [failure?_ok, ← ih]
          cases resolveElements source rest <;> rfl

/-! ## Resolving as two phases -/

/-- Searching in many lists one after the other is searching in all of them put together. -/
private theorem findSome?_flatMap_of_forall {α β γ : Type} {xs : List α} {parts : α → List β}
    {find : β → Option γ} {findIn : α → Option γ}
    (hparts : ∀ x ∈ xs, findIn x = (parts x).findSome? find) :
    xs.findSome? findIn = (xs.flatMap parts).findSome? find := by
  induction xs with
  | nil => rfl
  | cons x rest ih =>
      have hrest := ih fun y hy => hparts y (List.mem_cons_of_mem x hy)
      rw [List.findSome?_cons, List.flatMap_cons, List.findSome?_append, hrest,
        hparts x List.mem_cons_self]
      cases (parts x).findSome? find <;> rfl

/-- A template fails just as the first of its leaves that fails. -/
theorem failure?_resolve (source : Source) (template : Template) :
    failure? (resolve source template) =
      template.leaves.findSome? fun leaf => failure? (leaf.read source) := by
  induction template using leafInduction with
  | leaf leaf => simp [resolve_template]
  | subtree children ih =>
      rw [resolve, failure?_map, failure?_resolveChildren, leaves_subtree]
      exact findSome?_flatMap_of_forall ih
  | array elements ih =>
      rw [resolve, failure?_map, failure?_resolveElements, leaves_array]
      exact findSome?_flatMap_of_forall ih

theorem findSome?_failure?_eq_some_iff {source : Source} {leaves : List Leaf} {e : ImportError} :
    (leaves.findSome? fun leaf => failure? (leaf.read source)) = some e ↔
      FirstFailure source leaves e := by
  simp only [FirstFailure, Leaf.reads_iff]
  rw [List.findSome?_eq_some_iff]
  constructor
  · rintro ⟨before, leaf, after, hleaves, hfailure, hbefore⟩
    exact ⟨before, leaf, after, hleaves,
      fun other hother => failure?_eq_none_iff.mp (hbefore other hother),
      failure?_eq_some_iff.mp hfailure⟩
  · rintro ⟨before, leaf, after, hleaves, hbefore, hfailure⟩
    exact ⟨before, leaf, after, hleaves, failure?_eq_some_iff.mpr hfailure,
      fun other hother => failure?_eq_none_iff.mpr (hbefore other hother)⟩

/-- Two relations that agree on the elements of a list relate it to the same lists. -/
theorem forall₂_iff_of_mem {α β : Type} {R S : α → β → Prop} {xs : List α} {ys : List β}
    (h : ∀ x ∈ xs, ∀ y, R x y ↔ S x y) : List.Forall₂ R xs ys ↔ List.Forall₂ S xs ys := by
  induction xs generalizing ys with
  | nil => simp
  | cons x rest ih =>
      cases ys with
      | nil => simp
      | cons y ys =>
          have hrest := @ih ys fun z hz => h z (List.mem_cons_of_mem x hz)
          rw [List.forall₂_cons, List.forall₂_cons, h x List.mem_cons_self y, hrest]

/-- A template resolves to a value just if it is the template filled in. -/
theorem resolve_eq_ok_iff {source : Source} {template : Template} {value : Value} :
    resolve source template = .ok value ↔ Filled source template value := by
  induction template using leafInduction generalizing value with
  | leaf leaf =>
      rw [resolve_template, filled_template_iff]
      cases leaf.read source <;> simp [Except.map, eq_comm]
  | subtree children ih =>
      have hfilled : ∀ members,
          resolveChildren source children = .ok members ↔
            members.map Prod.fst = children.map Prod.fst ∧
              List.Forall₂ (fun child member => Filled source child.2 member.2)
                children members := by
        intro members
        rw [resolveChildren_eq_ok_iff, forall₂_iff_of_mem fun child hchild _ => ih child hchild]
      rw [resolve, filled_subtree_iff]
      simp only [← hfilled]
      cases resolveChildren source children <;> simp [Except.map, eq_comm]
  | array elements ih =>
      have hfilled : ∀ values,
          resolveElements source elements = .ok values ↔
            List.Forall₂ (Filled source) elements values := by
        intro values
        rw [resolveElements_eq_ok_iff,
          forall₂_iff_of_mem fun element helement _ => ih element helement]
      rw [resolve, filled_array_iff]
      simp only [← hfilled]
      cases resolveElements source elements <;> simp [Except.map, eq_comm]

/-- Resolving fails with the first failure of the template's leaves, untouched and wherever in the
tree it stands.  Without a failing leaf it gives a value, which is the template filled in. -/
theorem resolve_two_phases (source : Source) (template : Template) :
    (∀ e, template.resolve source = .error e ↔ FirstFailure source template.leaves e) ∧
      ((∃ value, template.resolve source = .ok value) ↔
        ∀ leaf ∈ template.leaves, ∃ value, leaf.Reads source (.ok value)) ∧
      ∀ value, template.resolve source = .ok value ↔ Filled source template value := by
  refine ⟨fun e => ?_, ?_, fun value => resolve_eq_ok_iff⟩
  · rw [← failure?_eq_some_iff, failure?_resolve, findSome?_failure?_eq_some_iff]
  · simp only [Leaf.reads_iff]
    rw [← failure?_eq_none_iff, failure?_resolve, List.findSome?_eq_none_iff]
    exact forall₂_congr fun leaf _ => failure?_eq_none_iff

/-- An element that fails is not left out like one that does not count as given. -/
example (source : Source) (e : ImportError) :
    (array [.literal .null, .computed "failing" fun _ => .error e]).resolve source =
      .error e := by
  rfl

end SheetImport.Template
