import SheetImport.Proofs.Json.Parts
import SheetImport.Proofs.Text.Joining
import SheetImport.Sheet

/-!
# Flattening loses nothing

A document is flattened to one field for each of its scalars.  As long as no name in it is empty or
has a dot, the name of a field can be taken apart again into the names that lead to its scalar, so no
two scalars meet in one field.
-/

namespace SheetImport.Sheet

open Json (IsSegment)

theorem itemLeaves_eq (path : String) (position : Nat) (items : List Json) :
    itemLeaves path position items =
      (items.zipIdx position).flatMap fun item => leaves (joinPath path (toString item.2)) item.1 := by
  induction items generalizing position with
  | nil => rfl
  | cons item rest ih =>
      rw [itemLeaves, ih, List.zipIdx_cons, List.flatMap_cons]
      rfl

theorem memberLeaves_eq (path : String) (members : List (String × Json)) :
    memberLeaves path members =
      members.flatMap fun member => leaves (joinPath path member.1) member.2 := by
  induction members with
  | nil => rfl
  | cons member rest ih => rw [memberLeaves, ih, List.flatMap_cons]

/-- A document that is no scalar is flattened part by part. -/
theorem leaves_eq (path : String) (document : Json) :
    leaves path document =
      if document.isScalar then scalarLeaf path document
      else document.parts.flatMap fun part => leaves (joinPath path part.1) part.2 := by
  cases document with
  | list items =>
      rw [leaves, itemLeaves_eq, Json.isScalar, if_neg (by decide), Json.parts, List.flatMap_map]
  | object members => rw [leaves, memberLeaves_eq, Json.isScalar, if_neg (by decide), Json.parts]
  | _ => rfl

/-- Below a name, the scalars stand under their paths behind that name. -/
theorem leaves_of_ne_empty {name : String} (hname : name ≠ "") (document : Json) :
    leaves name document = document.scalars.map fun scalar =>
      (".".intercalate (name :: scalar.1), Value.ofJson scalar.2) := by
  induction document using Json.partInduction generalizing name with
  | whole document ih =>
      rw [leaves_eq, Json.scalars_eq]
      split
      case isTrue =>
        rw [scalarLeaf, if_neg hname, List.map_singleton, String.intercalate_singleton]
      case isFalse =>
        rw [List.map_flatMap]
        apply List.flatMap_congr
        intro part hpart
        have hjoined : joinPath name part.1 ≠ "" := by
          rw [joinPath, if_neg hname]
          simp
        rw [ih part hpart hjoined, Json.under, List.map_map]
        apply List.map_congr_left
        intro scalar hscalar
        rw [Function.comp_apply, joinPath, if_neg hname, String.intercalate_cons_append,
          String.intercalate_cons_cons]

/-- The scalars of a document that is none itself stand under their paths. -/
theorem leaves_root {document : Json} (hroot : document.isScalar = false)
    (hnames : document.HasPlainNames) :
    leaves "" document = document.scalars.map fun scalar =>
      (".".intercalate scalar.1, Value.ofJson scalar.2) := by
  rw [leaves_eq, Json.scalars_eq, hroot, if_neg (by decide), if_neg (by decide), List.map_flatMap]
  apply List.flatMap_congr
  intro part hpart
  have hname : part.1 ≠ "" := (hnames.isSegment hpart).notEmpty
  rw [joinPath, if_pos rfl, leaves_of_ne_empty hname, Json.under, List.map_map]
  rfl

/-- A path to a scalar can be told from its joined form. -/
theorem segments_intercalate_of_mem {document : Json} (hroot : document.isScalar = false)
    (hnames : document.HasPlainNames) {scalar : List String × Json}
    (hscalar : scalar ∈ document.scalars) :
    Text.segments (".".intercalate scalar.1) = scalar.1 := by
  obtain ⟨hleads, hheld⟩ := Json.mem_scalars_iff.mp hscalar
  apply Text.segments_intercalate
  · intro hempty
    rw [hempty] at hleads
    cases hleads
    rw [hroot] at hheld
    cases hheld
  · intro name hname
    exact (hnames.isSegment_of_leads hleads name hname).noDot

/-- Where no name is empty or has a dot, flattening gives one field for each scalar of a document and
no others, in the document's order.  The segments of a field's name are the names that lead to the
scalar, and no two scalars are led to by the same ones. -/
theorem ofJson_lossless {document : Json} (hroot : document.isScalar = false)
    (hnames : document.HasPlainNames) :
    (∀ path scalar,
      (path, scalar) ∈ document.scalars ↔ document.Leads path scalar ∧ scalar.isScalar) ∧
      (ofJson document).fields =
        document.scalars.map (fun scalar => (".".intercalate scalar.1, Value.ofJson scalar.2)) ∧
      (ofJson document).names.map Text.segments = document.scalars.map Prod.fst ∧
      (document.scalars.map Prod.fst).Nodup ∧ (ofJson document).names.Nodup ∧
      (ofJson document).size = document.scalars.length := by
  have hleaves := leaves_root hroot hnames
  have hsegments : (Keyed.keys (leaves "" document)).map Text.segments =
      document.scalars.map Prod.fst := by
    rw [hleaves, Keyed.keys, List.map_map, List.map_map]
    apply List.map_congr_left
    intro scalar hscalar
    exact segments_intercalate_of_mem hroot hnames hscalar
  have hpaths : (document.scalars.map Prod.fst).Nodup := Json.nodup_paths hnames
  have hdistinct : (Keyed.keys (leaves "" document)).Nodup := by
    apply List.Nodup.of_map Text.segments
    rw [hsegments]
    exact hpaths
  have hfields : (ofJson document).fields = leaves "" document := Keyed.ofPairs_eq_self hdistinct
  refine ⟨fun path scalar => Json.mem_scalars_iff, hfields.trans hleaves, ?_, hpaths, ?_, ?_⟩
  · rw [names, hfields, hsegments]
  · rw [names, hfields]
    exact hdistinct
  · rw [size, hfields, hleaves, List.length_map]

/-- A list and objects in each other; a position and a member can have the same name. -/
theorem ofJson_lossless_nestedExport :
    let document : Json := .object [
      ("classes", .object [
        ("0", .object [("name", .text "Fighter"), ("level", .number (.whole (-5) (by decide)))]),
        ("1", .null)]),
      ("weapons", .list [.text "Longsword", .list [], .object [("0", .boolean true)]])]
    document.isScalar = false ∧ document.HasPlainNames ∧
      (ofJson document).fields = [("classes.0.name", .text "Fighter"),
        ("classes.0.level", .integer (-5)), ("classes.1", .null),
        ("weapons.0", .text "Longsword"), ("weapons.2.0", .boolean true)] := by
  intro document
  have hnames : document.HasPlainNames := by
    have htext (text : String) : (Json.text text).HasPlainNames :=
      Json.hasPlainNames_of_isScalar rfl
    have hboolean (b : Bool) : (Json.boolean b).HasPlainNames := Json.hasPlainNames_of_isScalar rfl
    have hnumber (n : Json.Number) : (Json.number n).HasPlainNames :=
      Json.hasPlainNames_of_isScalar rfl
    have hnull : Json.null.HasPlainNames := Json.hasPlainNames_of_isScalar rfl
    simp only [document, Json.hasPlainNames_object_iff, Json.hasPlainNames_list_iff,
      List.forall_mem_cons, htext, hboolean, hnumber, hnull, List.not_mem_nil, false_implies,
      implies_true]
    decide
  refine ⟨rfl, hnames, ?_⟩
  calc
    (ofJson document).fields = document.scalars.map
        fun scalar => (".".intercalate scalar.1, Value.ofJson scalar.2) :=
      (ofJson_lossless rfl hnames).2.1
    _ = _ := by rfl

end SheetImport.Sheet
