import SheetImport.Json.Raw

/-!
# Reading documents

A document is read from its raw form: every string and number has to stand for something, containers
nest to a limited depth, and a name that occurs twice keeps its first place and its last value.
-/

namespace SheetImport.Json

/-- How deep containers may nest in the files and texts that are read. -/
def nestingLimit : Nat := 127

mutual

/-- The document that a raw document stands for, if its containers nest at most `depth` deep. -/
def ofRaw? (depth : Nat) : Raw → Option Json
  | .null => some .null
  | .boolean b => some (.boolean b)
  | .number n => n.map .number
  | .text s => s.map .text
  | .list items =>
      match depth with
      | 0 => none
      | below + 1 => (itemsOfRaw? below items).map .list
  | .object members =>
      match depth with
      | 0 => none
      | below + 1 => (membersOfRaw? below members).map fun pairs => .object (Keyed.ofPairs pairs)

def itemsOfRaw? (depth : Nat) : List Raw → Option (List Json)
  | [] => some []
  | item :: rest =>
      match ofRaw? depth item, itemsOfRaw? depth rest with
      | some value, some values => some (value :: values)
      | _, _ => none

/-- Members of an object, in order and with every repetition. -/
def membersOfRaw? (depth : Nat) : List (Option String × Raw) → Option (List (String × Json))
  | [] => some []
  | (key, item) :: rest =>
      match key, ofRaw? depth item, membersOfRaw? depth rest with
      | some name, some value, some members => some ((name, value) :: members)
      | _, _, _ => none

end

/-- Reads a document whose containers nest at most `depth` deep. -/
def parseWithin (depth : Nat) (s : String) : Option Json :=
  (Raw.ofText? s).bind (ofRaw? depth)

def parse? (s : String) : Option Json :=
  parseWithin nestingLimit s

end SheetImport.Json
