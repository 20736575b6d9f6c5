import Mathlib.Data.List.Nodup
import SheetImport.Json.Basic
import SheetImport.Proofs.Json.Numerals

/-!
# The parts of a document

The items of a list and the members of an object are the parts of a document.  A part has a name:
that of the member, or the item's position written in decimal.  Names one behind the other lead from
a document to whatever it holds at any depth, in particular to its scalars.
-/

namespace SheetImport.Json

def isScalar : Json → Bool
  | .list _ => false
  | .object _ => false
  | _ => true

/-- What stands directly inside a document, under its names and in its order. -/
def parts : Json → List (String × Json)
  | .list items => items.zipIdx.map fun item => (toString item.2, item.1)
  | .object members => members
  | _ => []

/-- Induction over a document.  The motive may be assumed of all its parts. -/
@[elab_as_elim]
theorem partInduction {motive : Json → Prop}
    (whole : ∀ document : Json, (∀ part ∈ document.parts, motive part.2) → motive document)
    (document : Json) : motive document :=
  Json.rec (motive_1 := motive)
    (motive_2 := fun items => ∀ item ∈ items, motive item)
    (motive_3 := fun members => ∀ member ∈ members, motive member.2)
    (motive_4 := fun member => motive member.2)
    (whole .null (by simp [parts])) (fun b => whole (.boolean b) (by simp [parts]))
    (fun n => whole (.number n) (by simp [parts])) (fun s => whole (.text s) (by simp [parts]))
    (fun items hitems => whole (.list items) (by
      intro part hpart
      obtain ⟨item, hitem, rfl⟩ := List.mem_map.mp hpart
      exact hitems item.1 (List.fst_mem_of_mem_zipIdx hitem)))
    (fun members hmembers => whole (.object members) hmembers)
    (by simp)
    (fun _ _ hitem hrest => List.forall_mem_cons.mpr ⟨hitem, hrest⟩)
    (by simp)
    (fun _ _ hmember hrest => List.forall_mem_cons.mpr ⟨hmember, hrest⟩)
    (fun _ _ hvalue => hvalue) document

/-- Whether names lead from a document to what it holds there. -/
inductive Leads : Json → List String → Json → Prop
  | here (document : Json) : Leads document [] document
  | part {document held : Json} {part : String × Json} {path : List String}
      (hpart : part ∈ document.parts) (hrest : Leads part.2 path held) :
      Leads document (part.1 :: path) held

/-! ## Scalars -/

/-- What a part has at some places, at the places that these are in the whole. -/
def under (name : String) (places : List (List String × Json)) : List (List String × Json) :=
  places.map fun place => (name :: place.1, place.2)

mutual

/-- The scalars of a document, null included, in the order in which a reader comes across them, each
with the names that lead to it. -/
def scalars : Json → List (List String × Json)
  | .null => [([], .null)]
  | .boolean b => [([], .boolean b)]
  | .number n => [([], .number n)]
  | .text s => [([], .text s)]
  | .list items => itemScalars 0 items
  | .object members => memberScalars members

/-- The scalars of a list's items, of which the first has that position. -/
def itemScalars (position : Nat) : List Json → List (List String × Json)
  | [] => []
  | item :: rest => under (toString position) (scalars item) ++ itemScalars (position + 1) rest

def memberScalars : List (String × Json) → List (List String × Json)
  | [] => []
  | (key, value) :: rest => under key (scalars value) ++ memberScalars rest

end

theorem itemScalars_eq (position : Nat) (items : List Json) :
    itemScalars position items =
      (items.zipIdx position).flatMap fun item => under (toString item.2) item.1.scalars := by
  induction items generalizing position with
  | nil => rfl
  | cons item rest ih => rw [itemScalars, ih, List.zipIdx_cons, List.flatMap_cons]

theorem memberScalars_eq (members : List (String × Json)) :
    memberScalars members = members.flatMap fun member => under member.1 member.2.scalars := by
  induction members with
  | nil => rfl
  | cons member rest ih => rw [memberScalars, ih, List.flatMap_cons]

theorem scalars_eq (document : Json) :
    document.scalars =
      if document.isScalar then [([], document)]
      else document.parts.flatMap fun part => under part.1 part.2.scalars := by
  cases document with
  | list items =>
      rw [scalars, itemScalars_eq, isScalar, if_neg (by decide), parts, List.flatMap_map]
  | object members => rw [scalars, memberScalars_eq, isScalar, if_neg (by decide), parts]
  | _ => rfl

theorem parts_eq_nil {document : Json} (h : document.isScalar) : document.parts = [] := by
  cases document with
  | list items => cases h
  | object members => cases h
  | _ => rfl

/-- The scalars are all to which names lead. -/
theorem mem_scalars_iff {document : Json} {path : List String} {scalar : Json} :
    (path, scalar) ∈ document.scalars ↔ document.Leads path scalar ∧ scalar.isScalar := by
  induction document using partInduction generalizing path with
  | whole document ih =>
      rw [scalars_eq]
      split
      case isTrue hscalar =>
        rw [List.mem_singleton, Prod.mk.injEq]
        constructor
        · intro h
          obtain ⟨rfl, rfl⟩ := h
          exact ⟨.here scalar, hscalar⟩
        · intro h
          obtain ⟨hleads, -⟩ := h
          cases hleads with
          | here => exact ⟨rfl, rfl⟩
          | part hpart => simp [parts_eq_nil hscalar] at hpart
      case isFalse hwhole =>
        rw [List.mem_flatMap]
        constructor
        · intro h
          obtain ⟨part, hpart, hunder⟩ := h
          obtain ⟨place, hplace, heq⟩ := List.mem_map.mp hunder
          cases heq
          obtain ⟨hleads, hscalar⟩ := (ih part hpart).mp hplace
          exact ⟨.part hpart hleads, hscalar⟩
        · intro h
          obtain ⟨hleads, hscalar⟩ := h
          cases hleads with
          | here => exact absurd hscalar hwhole
          | part hpart hrest =>
              have hplace := (ih _ hpart).mpr ⟨hrest, hscalar⟩
              exact ⟨_, hpart, List.mem_map.mpr ⟨_, hplace, rfl⟩⟩

/-! ## Names -/

/-- Whether a name can be told from others in a dotted path: it has no dots and is not empty. -/
structure IsSegment (name : String) : Prop where
  notEmpty : name ≠ ""
  noDot : '.' ∉ name.toList

instance (name : String) : Decidable (IsSegment name) :=
  decidable_of_iff (name ≠ "" ∧ '.' ∉ name.toList) ⟨fun h => ⟨h.1, h.2⟩, fun h => ⟨h.1, h.2⟩⟩

/-- Whether in every object of a document, at any depth, the members have names that differ and can
be told from others in a dotted path. -/
def HasPlainNames (document : Json) : Prop :=
  ∀ path members, document.Leads path (.object members) →
    (Keyed.keys members).Nodup ∧ ∀ key ∈ Keyed.keys members, IsSegment key

theorem isSegment_toString (position : Nat) : IsSegment (toString position) where
  notEmpty := by
    intro hempty
    exact Decimal.digitsOf_ne_nil position (String.ofList_eq_empty_iff.mp hempty)
  noDot := by
    intro hdot
    have hdigit : '.' ∈ Decimal.digitsOf position := by
      rw [← String.toList_ofList (l := Decimal.digitsOf position)]
      exact hdot
    exact absurd (Decimal.isDigit_of_mem_digitsOf hdigit) (by decide)

theorem toString_injective : Function.Injective (toString : Nat → String) := by
  intro first second heq
  have hdigits : Decimal.digitsOf first = Decimal.digitsOf second := String.ofList_injective heq
  calc
    first = Nat.ofDigitChars 10 (Decimal.digitsOf first) 0 :=
      (Nat.ofDigitChars_toDigits (by decide) (by decide)).symm
    _ = Nat.ofDigitChars 10 (Decimal.digitsOf second) 0 := by rw [hdigits]
    _ = second := Nat.ofDigitChars_toDigits (by decide) (by decide)

namespace HasPlainNames

variable {document : Json} {part : String × Json}

theorem of_mem_parts (h : document.HasPlainNames) (hpart : part ∈ document.parts) :
    part.2.HasPlainNames :=
  fun path members hleads => h (part.1 :: path) members (.part hpart hleads)

theorem isSegment (h : document.HasPlainNames) (hpart : part ∈ document.parts) :
    IsSegment part.1 := by
  cases document with
  | list items =>
      obtain ⟨item, -, rfl⟩ := List.mem_map.mp hpart
      exact isSegment_toString item.2
  | object members => exact (h [] members (.here _)).2 part.1 (List.mem_map_of_mem hpart)
  | _ => cases hpart

theorem nodup_parts (h : document.HasPlainNames) : (document.parts.map Prod.fst).Nodup := by
  cases document with
  | list items =>
      have hnames : (list items).parts.map Prod.fst =
          (List.range' 0 items.length).map toString := by
        rw [parts, List.map_map, ← List.zipIdx_map_snd 0 items, List.map_map]
        rfl
      rw [hnames]
      exact List.Nodup.map toString_injective List.nodup_range'
  | object members => exact (h [] members (.here _)).1
  | _ => exact List.nodup_nil

theorem isSegment_of_leads (h : document.HasPlainNames) {path : List String} {held : Json}
    (hleads : document.Leads path held) : ∀ name ∈ path, IsSegment name := by
  induction hleads with
  | here => simp
  | part hpart _ ih =>
      exact List.forall_mem_cons.mpr ⟨h.isSegment hpart, ih (h.of_mem_parts hpart)⟩

end HasPlainNames

theorem hasPlainNames_of_isScalar {document : Json} (h : document.isScalar) :
    document.HasPlainNames := by
  intro path members hleads
  cases hleads with
  | here => cases h
  | part hpart => simp [parts_eq_nil h] at hpart

theorem hasPlainNames_object_iff {members : List (String × Json)} :
    (object members).HasPlainNames ↔
      ((Keyed.keys members).Nodup ∧ ∀ key ∈ Keyed.keys members, IsSegment key) ∧
        ∀ member ∈ members, member.2.HasPlainNames := by
  constructor
  · intro h
    exact ⟨h [] members (.here _), fun member hmember => h.of_mem_parts hmember⟩
  · intro h path inner hleads
    cases hleads with
    | here => exact h.1
    | part hpart hrest => exact h.2 _ hpart _ inner hrest

theorem hasPlainNames_list_iff {items : List Json} :
    (list items).HasPlainNames ↔ ∀ item ∈ items, item.HasPlainNames := by
  constructor
  · intro h item hitem
    obtain ⟨position, hposition⟩ := List.mem_iff_getElem?.mp hitem
    have hpart : (toString position, item) ∈ (list items).parts :=
      List.mem_map.mpr ⟨(item, position), List.mk_mem_zipIdx_iff_getElem?.mpr hposition, rfl⟩
    exact h.of_mem_parts hpart
  · intro h path inner hleads
    cases hleads with
    | part hpart hrest =>
        obtain ⟨item, hitem, rfl⟩ := List.mem_map.mp hpart
        exact h item.1 (List.fst_mem_of_mem_zipIdx hitem) _ inner hrest

theorem map_fst_under (name : String) (places : List (List String × Json)) :
    (under name places).map Prod.fst = (places.map Prod.fst).map (name :: ·) := by
  rw [under, List.map_map, List.map_map]
  rfl

/-- No two scalars have the same path. -/
theorem nodup_paths {document : Json} (h : document.HasPlainNames) :
    (document.scalars.map Prod.fst).Nodup := by
  induction document using partInduction with
  | whole document ih =>
      rw [scalars_eq]
      split
      case isTrue => exact List.nodup_singleton []
      case isFalse =>
        simp only [List.map_flatMap, map_fst_under]
        rw [List.nodup_flatMap]
        constructor
        · intro part hpart
          exact (ih part hpart (h.of_mem_parts hpart)).map List.cons_injective
        · have hdiffer := List.pairwise_map.mp h.nodup_parts
          refine hdiffer.imp fun {first second} hne path hfirst hsecond => ?_
          obtain ⟨_, -, rfl⟩ := List.mem_map.mp hfirst
          obtain ⟨_, -, heq⟩ := List.mem_map.mp hsecond
          exact hne (List.cons.inj heq).1.symm

end SheetImport.Json
