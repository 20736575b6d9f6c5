import SheetImport.Proofs.Decimal.WholeFloats
import SheetImport.Proofs.Value.Serialization

/-!
# What conversions lose

A value that is turned into a document and back differs from what it was only at floats that are not
finite, and a document that is turned into a value and back only at whole numbers for which values
have no integer.  Both losses are stated by a map over the whole tree that acts on numbers alone.
-/

namespace SheetImport

namespace Value

mutual

/-- The value with something else in place of every float, at any depth. -/
def mapFloats (f : Float → Value) : Value → Value
  | .null => .null
  | .boolean b => .boolean b
  | .integer n => .integer n
  | .float x => f x
  | .text s => .text s
  | .list items => .list (mapItemFloats f items)
  | .object members => .object (mapMemberFloats f members)

def mapItemFloats (f : Float → Value) : List Value → List Value
  | [] => []
  | item :: rest => mapFloats f item :: mapItemFloats f rest

def mapMemberFloats (f : Float → Value) : List (String × Value) → List (String × Value)
  | [] => []
  | (key, value) :: rest => (key, mapFloats f value) :: mapMemberFloats f rest

end

/-- A float, or null if it is infinite or not a number. -/
def floatOrNull (x : Float) : Value :=
  if x.isNaN ∨ x.isInf then .null else .float x

end Value

namespace Json

mutual

/-- The document with another number in place of every number, at any depth. -/
def mapNumbers (f : Number → Number) : Json → Json
  | .null => .null
  | .boolean b => .boolean b
  | .number n => .number (f n)
  | .text s => .text s
  | .list items => .list (mapItemNumbers f items)
  | .object members => .object (mapMemberNumbers f members)

def mapItemNumbers (f : Number → Number) : List Json → List Json
  | [] => []
  | item :: rest => mapNumbers f item :: mapItemNumbers f rest

def mapMemberNumbers (f : Number → Number) : List (String × Json) → List (String × Json)
  | [] => []
  | (key, value) :: rest => (key, mapNumbers f value) :: mapMemberNumbers f rest

end

/-- A number, or its float if it is a whole number above the largest signed one of 64 bits. -/
def Number.signedOrFloat : Number → Number
  | .whole n fits =>
      if 9223372036854775807 < n then
        .float n.toNat.toUInt64.toFloat (Decimal.isFinite_toFloat n.toNat.toUInt64)
      else .whole n fits
  | .float x finite => .float x finite

end Json

namespace Value

open Json (Number)

/-! ## Values -/

theorem toJson_float {x : Float} (hfinite : x.isFinite) :
    toJson (.float x) = .number (.float x hfinite) := by
  rw [toJson, Number.ofFloat?, dif_pos hfinite]

theorem ofJson_toJson_float (x : Float) : ofJson (toJson (.float x)) = floatOrNull x := by
  rw [floatOrNull]
  split
  case isTrue hlost =>
    have hinfinite : ¬x.isFinite := fun hfinite => (Decimal.isFinite_iff x).mp hfinite hlost
    rw [toJson, Number.ofFloat?, dif_neg hinfinite]
    rfl
  case isFalse hkept =>
    rw [toJson_float ((Decimal.isFinite_iff x).mpr hkept)]
    rfl

mutual

theorem ofJson_toJson_eq : ∀ value : Value, ofJson value.toJson = value.mapFloats floatOrNull
  | .null => rfl
  | .boolean _ => rfl
  | .integer n => ofNumber_integerNumber n
  | .float x => ofJson_toJson_float x
  | .text _ => rfl
  | .list items => by rw [toJson, ofJson, mapFloats, ofItems_toItems_eq items]
  | .object members => by rw [toJson, ofJson, mapFloats, ofMembers_toMembers_eq members]

theorem ofItems_toItems_eq :
    ∀ items : List Value, ofItems (toItems items) = mapItemFloats floatOrNull items
  | [] => rfl
  | item :: rest => by
      rw [toItems, ofItems, mapItemFloats, ofJson_toJson_eq item, ofItems_toItems_eq rest]

theorem ofMembers_toMembers_eq :
    ∀ members : List (String × Value),
      ofMembers (toMembers members) = mapMemberFloats floatOrNull members
  | [] => rfl
  | (key, value) :: rest => by
      rw [toMembers, ofMembers, mapMemberFloats, ofJson_toJson_eq value,
        ofMembers_toMembers_eq rest]

end

/-! ## Documents -/

/-- The document of a number's value has the number itself, or its float. -/
theorem toJson_ofNumber (n : Number) : (ofNumber n).toJson = .number n.signedOrFloat := by
  cases n with
  | whole n fits =>
      rw [ofNumber, Number.signedOrFloat]
      by_cases hlarge : 9223372036854775807 < n
      · rw [if_neg (by omega), if_pos hlarge]
        exact toJson_float (Decimal.isFinite_toFloat n.toNat.toUInt64)
      · have hsame : (Int64.ofInt n).toInt = n :=
          Int64.toInt_ofInt_of_le fits.1 (Int.lt_add_one_of_le (Int.not_lt.mp hlarge))
        rw [if_pos (by omega), if_neg hlarge, toJson, integerNumber]
        simp only [hsame]
  | float x finite => exact toJson_float finite

/-- A number and its float have the same value. -/
theorem ofNumber_signedOrFloat (n : Number) : ofNumber n.signedOrFloat = ofNumber n := by
  cases n with
  | whole n fits =>
      rw [Number.signedOrFloat]
      split
      case isTrue hlarge =>
        have hsigned : ¬n < 9223372036854775808 := by omega
        rw [ofNumber, ofNumber, if_neg hsigned]
      case isFalse => rfl
  | float x finite => rfl

mutual

theorem toJson_ofJson_eq :
    ∀ document : Json, (ofJson document).toJson = document.mapNumbers Number.signedOrFloat
  | .null => rfl
  | .boolean _ => rfl
  | .number n => toJson_ofNumber n
  | .text _ => rfl
  | .list items => by rw [ofJson, toJson, Json.mapNumbers, toItems_ofItems_eq items]
  | .object members => by rw [ofJson, toJson, Json.mapNumbers, toMembers_ofMembers_eq members]

theorem toItems_ofItems_eq :
    ∀ items : List Json, toItems (ofItems items) = Json.mapItemNumbers Number.signedOrFloat items
  | [] => rfl
  | item :: rest => by
      rw [ofItems, toItems, Json.mapItemNumbers, toJson_ofJson_eq item, toItems_ofItems_eq rest]

theorem toMembers_ofMembers_eq :
    ∀ members : List (String × Json),
      toMembers (ofMembers members) = Json.mapMemberNumbers Number.signedOrFloat members
  | [] => rfl
  | (key, value) :: rest => by
      rw [ofMembers, toMembers, Json.mapMemberNumbers, toJson_ofJson_eq value,
        toMembers_ofMembers_eq rest]

end

/-- A value comes back from its document with null for every float that is not finite, and a
document from its value with floats for the whole numbers that are too large.  Nothing else
changes. -/
theorem conversions_lose_only_numbers :
    (∀ value : Value, ofJson value.toJson = value.mapFloats floatOrNull) ∧
      ∀ document : Json,
        (ofJson document).toJson = document.mapNumbers Number.signedOrFloat :=
  ⟨ofJson_toJson_eq, toJson_ofJson_eq⟩

end Value

end SheetImport
