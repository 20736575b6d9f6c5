import SheetImport.Json.Printer
import SheetImport.Json.Reader
import SheetImport.Value.Basic

/-!
# Values and documents

A value can be taken from a document, turned into one, or written as text and read back.  The only
losses are numbers: a document has no room for a float that is not finite, and a value has no room
for a whole number above the largest signed one of 64 bits.
-/

namespace SheetImport.Value

open Json (Number)

/-- The value of a document's number. -/
def ofNumber : Number → Value
  | .whole n _ =>
      if n < 9223372036854775808 then .integer (Int64.ofInt n) else .float n.toNat.toUInt64.toFloat
  | .float x _ => .float x

mutual

def ofJson : Json → Value
  | .null => .null
  | .boolean b => .boolean b
  | .number n => ofNumber n
  | .text s => .text s
  | .list items => .list (ofItems items)
  | .object members => .object (ofMembers members)

def ofItems : List Json → List Value
  | [] => []
  | item :: rest => ofJson item :: ofItems rest

def ofMembers : List (String × Json) → List (String × Value)
  | [] => []
  | (key, item) :: rest => (key, ofJson item) :: ofMembers rest

end

def integerNumber (n : Int64) : Number :=
  .whole n.toInt ⟨n.le_toInt, Int.lt_trans n.toInt_lt (by decide)⟩

mutual

/-- The document of a value; a float that is not finite becomes null. -/
def toJson : Value → Json
  | .null => .null
  | .boolean b => .boolean b
  | .integer n => .number (integerNumber n)
  | .float x =>
      match Number.ofFloat? x with
      | some n => .number n
      | none => .null
  | .text s => .text s
  | .list items => .list (toItems items)
  | .object members => .object (toMembers members)

def toItems : List Value → List Json
  | [] => []
  | item :: rest => toJson item :: toItems rest

def toMembers : List (String × Value) → List (String × Json)
  | [] => []
  | (key, item) :: rest => (key, toJson item) :: toMembers rest

end

/-- The text of a float in a document. -/
def floatDocumentText (x : Float) : List Char :=
  if x.isFinite then Json.floatLayout.text x else Json.nullText

mutual

/-- The compact text of a value, written without making a document of it first. -/
def serialText : Value → List Char
  | .null => Json.nullText
  | .boolean b => Json.booleanText b
  | .integer n => Json.wholeText n.toInt
  | .float x => floatDocumentText x
  | .text s => Json.quoted s
  | .list items => '[' :: (Json.joined [','] (serialItems items) ++ [']'])
  | .object members => '{' :: (Json.joined [','] (serialMembers members) ++ ['}'])

def serialItems : List Value → List (List Char)
  | [] => []
  | item :: rest => serialText item :: serialItems rest

def serialMembers : List (String × Value) → List (List Char)
  | [] => []
  | (key, item) :: rest => (Json.quoted key ++ ':' :: serialText item) :: serialMembers rest

end

def serialize (value : Value) : String :=
  String.ofList (serialText value)

/-! ## Reading

The text of a value does not say of which kind the value is.  Reading tries the kinds one after the
other and takes the first that fits, so a whole number is an integer if it can be one, and a float
only if not. -/

def readNull? : Json → Option Value
  | .null => some .null
  | _ => none

def readBoolean? : Json → Option Value
  | .boolean b => some (.boolean b)
  | _ => none

def readInteger? : Json → Option Value
  | .number (.whole n _) =>
      if n < 9223372036854775808 then some (.integer (Int64.ofInt n)) else none
  | _ => none

/-- Any number can be read as a float. -/
def readFloat? : Json → Option Value
  | .number (.whole n _) =>
      if n < 9223372036854775808 then some (.float (Int64.ofInt n).toFloat)
      else some (.float n.toNat.toUInt64.toFloat)
  | .number (.float x _) => some (.float x)
  | _ => none

def readText? : Json → Option Value
  | .text s => some (.text s)
  | _ => none

/-- A value that holds no others, of the first kind that fits. -/
def readScalar? (document : Json) : Option Value :=
  [readNull?, readBoolean?, readInteger?, readFloat?, readText?].findSome? fun read => read document

mutual

/-- The value of a document, of the first kind that fits. -/
def read? (document : Json) : Option Value :=
  (readScalar? document).or
    (match document with
    | .list items => (readItems? items).map .list
    | .object members => (readMembers? members).map .object
    | _ => none)

def readItems? : List Json → Option (List Value)
  | [] => some []
  | item :: rest =>
      match read? item, readItems? rest with
      | some value, some values => some (value :: values)
      | _, _ => none

def readMembers? : List (String × Json) → Option (List (String × Value))
  | [] => some []
  | (key, item) :: rest =>
      match read? item, readMembers? rest with
      | some value, some members => some ((key, value) :: members)
      | _, _ => none

end

def parse? (s : String) : Option Value :=
  (Json.parse? s).bind read?

end SheetImport.Value
