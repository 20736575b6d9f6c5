import SheetImport.Import
import SheetImport.Proofs.Sheet.Flattening
import SheetImport.Proofs.Value.Conversions

/-!
# Sheets in flat form

A sheet can be written as a document without nesting, with its fields' names as they are.
Flattening this document changes nothing, although the names in it are full of dots: no field has an
empty name, no name comes twice, and every value comes back from its document.  None of this needs
the names of the nested document to be told apart, so a field in which several scalars met stays
as it is, too.
-/

namespace SheetImport

namespace Sheet

/-- The sheet as a document without nesting. -/
def toJson (sheet : Sheet) : Json :=
  .object (sheet.fields.map fun field => (field.1, field.2.toJson))

theorem eq_of_fields_eq {first second : Sheet} (h : first.fields = second.fields) :
    first = second := by
  obtain ⟨fields, distinct⟩ := first
  cases h
  rfl

/-- Whether a field can come from a scalar of a document. -/
structure IsLeaf (field : String × Value) : Prop where
  named : field.1 ≠ ""
  scalar : ∃ scalar : Json, scalar.isScalar ∧ field.2 = Value.ofJson scalar

/-! ## The fields of a flattened document -/

theorem isLeaf_of_mem_scalarLeaf {path : String} {scalar : Json} (hscalar : scalar.isScalar)
    {field : String × Value} (hfield : field ∈ scalarLeaf path scalar) : IsLeaf field := by
  rw [scalarLeaf] at hfield
  split at hfield
  case isTrue => cases hfield
  case isFalse hpath =>
    rw [List.mem_singleton] at hfield
    rw [hfield]
    exact ⟨hpath, scalar, hscalar, rfl⟩

theorem isLeaf_of_mem_leaves {path : String} {document : Json} {field : String × Value}
    (hfield : field ∈ leaves path document) : IsLeaf field := by
  induction document using Json.partInduction generalizing path with
  | whole document ih =>
      rw [leaves_eq] at hfield
      split at hfield
      case isTrue hscalar => exact isLeaf_of_mem_scalarLeaf hscalar hfield
      case isFalse =>
        obtain ⟨part, hpart, hbelow⟩ := List.mem_flatMap.mp hfield
        exact ih part hpart hbelow

theorem isLeaf_of_mem_ofJson {document : Json} {field : String × Value}
    (hfield : field ∈ (ofJson document).fields) : IsLeaf field :=
  isLeaf_of_mem_leaves (Keyed.mem_of_mem_ofPairs hfield)

/-! ## Flattening the flat form -/

theorem isScalar_mapNumbers {scalar : Json} (h : scalar.isScalar) (f : Json.Number → Json.Number) :
    (scalar.mapNumbers f).isScalar := by
  cases scalar with
  | list items => cases h
  | object members => cases h
  | _ => rfl

/-- A scalar that was taken from a document once is taken from its own document again. -/
theorem ofJson_mapNumbers_signedOrFloat {scalar : Json} (h : scalar.isScalar) :
    Value.ofJson (scalar.mapNumbers Json.Number.signedOrFloat) = Value.ofJson scalar := by
  cases scalar with
  | list items => cases h
  | object members => cases h
  | number n => exact Value.ofNumber_signedOrFloat n
  | _ => rfl

theorem IsLeaf.leaves_toJson {field : String × Value} (h : IsLeaf field) :
    leaves field.1 field.2.toJson = [field] := by
  obtain ⟨scalar, hscalar, hvalue⟩ := h.scalar
  have hdocument : field.2.toJson = scalar.mapNumbers Json.Number.signedOrFloat := by
    rw [hvalue, Value.toJson_ofJson_eq]
  have hstable : Value.ofJson field.2.toJson = field.2 := by
    rw [hdocument, ofJson_mapNumbers_signedOrFloat hscalar, hvalue]
  have hkept : field.2.toJson.isScalar := hdocument ▸ isScalar_mapNumbers hscalar _
  rw [leaves_eq, if_pos hkept, scalarLeaf, if_neg h.named, hstable]

theorem leaves_toJson {sheet : Sheet} (h : ∀ field ∈ sheet.fields, IsLeaf field) :
    leaves "" sheet.toJson = sheet.fields := by
  rw [toJson, leaves, memberLeaves_eq, List.flatMap_map]
  calc
    sheet.fields.flatMap (fun field => leaves (joinPath "" field.1) field.2.toJson)
      = sheet.fields.flatMap fun field => [field] := by
        apply List.flatMap_congr
        intro field hfield
        rw [joinPath, if_pos rfl, (h field hfield).leaves_toJson]
    _ = sheet.fields := List.flatMap_singleton' sheet.fields

theorem ofJson_toJson {sheet : Sheet} (h : ∀ field ∈ sheet.fields, IsLeaf field) :
    ofJson sheet.toJson = sheet := by
  apply eq_of_fields_eq
  calc
    (ofJson sheet.toJson).fields = Keyed.ofPairs (leaves "" sheet.toJson) := rfl
    _ = Keyed.ofPairs sheet.fields := by rw [leaves_toJson h]
    _ = sheet.fields := Keyed.ofPairs_eq_self sheet.distinct

/-- A document and the flat form of its sheet have the same sheet, and so give the same import or
the same failure under every format. -/
theorem flattening_idempotent (document : Json) :
    ofJson (ofJson document).toJson = ofJson document ∧
      ∀ format : Format,
        format.run (ofJson (ofJson document).toJson).source =
          format.run (ofJson document).source := by
  have hsame : ofJson (ofJson document).toJson = ofJson document :=
    ofJson_toJson fun _ hfield => isLeaf_of_mem_ofJson hfield
  refine ⟨hsame, fun format => ?_⟩
  rw [hsame]

/-- Two scalars meet in one field, and one has no name. -/
example :
    (ofJson (.object [
      ("a", .object [("b", .null)]), ("", .boolean false), ("a.b", .boolean true)])).fields =
      [("a.b", .boolean true)] := by rfl

end Sheet

end SheetImport
