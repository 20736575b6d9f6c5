import SheetImport.Decimal.Layout
import SheetImport.Keyed
import SheetImport.Text.Segments
import SheetImport.Text.Whitespace

/-!
# Values

The values of sheet fields and of the records made from them.  Exports write an unchecked box as
`Off` and an empty box as empty text; `normalized` replaces both, and only at the value itself, never
inside lists or objects.
-/

namespace SheetImport

/-- The value of a field, or a record made of values. -/
inductive Value
  | null
  | boolean (b : Bool)
  | integer (n : Int64)
  | float (x : Float)
  | text (s : String)
  | list (items : List Value)
  | object (members : List (String × Value))

/-- What an export writes for an unchecked box. -/
def uncheckedMark : String := "Off"

def checkedMark : String := "True"

namespace Value

/-- Whether a value counts as given.  Lists and objects always do, even empty ones. -/
def isTruthy : Value → Bool
  | .null => false
  | .boolean b => b
  | .integer n => n != 0
  | .float x => x != 0.0 && !x.isNaN
  | .text s => s != ""
  | .list _ => true
  | .object _ => true

/-- An unchecked mark becomes false and empty text null. -/
def normalized : Value → Value
  | .text s => if s = uncheckedMark then .boolean false else if s = "" then .null else .text s
  | value => value

/-- Text loses the white space at its ends. -/
def trimmed : Value → Value
  | .text s => .text (Text.trim s)
  | value => value

def text? : Value → Option String
  | .text s => some s
  | _ => none

def members? : Value → Option (Keyed Value)
  | .object members => some members
  | _ => none

/-- The member of that name, if the value is an object that has one. -/
def member? : Value → String → Option Value
  | .object members, name => Keyed.get? members name
  | _, _ => none

def follow? : Value → List String → Option Value
  | value, [] => some value
  | value, name :: rest => (value.member? name).bind (follow? · rest)

def pointer? (value : Value) (path : String) : Option Value :=
  value.follow? (Text.segments path)

/-- The text of a float, finite or not. -/
def floatText (x : Float) : String :=
  if x.isNaN then "NaN"
  else if x.isInf then (if x < 0.0 then "-inf" else "inf")
  else String.ofList (Decimal.plain.text x)

def integerText (n : Int64) : String :=
  let magnitude := String.ofList (Decimal.digitsOf n.toInt.natAbs)
  if n.toInt < 0 then "-" ++ magnitude else magnitude

/-- How a scalar is shown to people; null, lists and objects are not. -/
def display? : Value → Option String
  | .text s => some s
  | .integer n => some (integerText n)
  | .float x => some (floatText x)
  | .boolean b => some (if b then "true" else "false")
  | .null => none
  | .list _ => none
  | .object _ => none

end Value

end SheetImport
