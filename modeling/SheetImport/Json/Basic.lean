import SheetImport.Keyed
import SheetImport.Json.Number

/-!
# Documents

A document is a JSON value whose objects keep their members in order.
-/

namespace SheetImport

/-- A JSON value. -/
inductive Json
  | null
  | boolean (b : Bool)
  | number (n : Json.Number)
  | text (s : String)
  | list (items : List Json)
  | object (members : List (String × Json))

namespace Json

/-- The member of that name, if the document is an object that has one. -/
def member? : Json → String → Option Json
  | .object members, name => Keyed.get? members name
  | _, _ => none

def text? : Json → Option String
  | .text s => some s
  | _ => none

def ofText? : Option String → Json
  | some s => .text s
  | none => .null

/-- A small whole number. -/
def ofFin (n : Fin 256) : Json :=
  .number (.whole n (by omega))

end Json

end SheetImport
