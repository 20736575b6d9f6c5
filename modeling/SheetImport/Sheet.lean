import SheetImport.FileFailure
import SheetImport.Pattern.Basic
import SheetImport.Value.Document

/-!
# Sheets

A sheet is an exported character sheet as a flat list of named values.  A nested export is flattened:
the names of its scalars are their paths, with list positions as segments.  Everything that reads a
sheet does so through a `Source`, by exact name or by pattern.
-/

namespace SheetImport

/-- What an import may ask of a sheet. -/
structure Source where
  get? : String → Option Value
  /-- The values of the fields whose names match, in the order of the sheet. -/
  matching : Pattern → List Value

/-- Named values in order, with no name twice. -/
structure Sheet where
  fields : Keyed Value
  distinct : (Keyed.keys fields).Nodup

namespace Sheet

def empty : Sheet :=
  ⟨[], List.nodup_nil⟩

/-- A known field keeps its place and takes the new value; a new field goes to the end. -/
def insert (sheet : Sheet) (name : String) (value : Value) : Sheet :=
  ⟨Keyed.insert sheet.fields name value, Keyed.nodup_keys_insert name value sheet.distinct⟩

def ofPairs (pairs : List (String × Value)) : Sheet :=
  ⟨Keyed.ofPairs pairs, Keyed.nodup_keys_ofPairs pairs⟩

def get? (sheet : Sheet) (name : String) : Option Value :=
  Keyed.get? sheet.fields name

def text? (sheet : Sheet) (name : String) : Option String :=
  (sheet.get? name).bind Value.text?

def names (sheet : Sheet) : List String :=
  Keyed.keys sheet.fields

def size (sheet : Sheet) : Nat :=
  sheet.fields.length

def isEmpty (sheet : Sheet) : Bool :=
  sheet.fields.isEmpty

/-- The values of the fields whose names match, in order and with repetitions. -/
def matching (sheet : Sheet) (pattern : Pattern) : List Value :=
  (sheet.fields.filter fun field => pattern.isMatch field.1).map Prod.snd

def source (sheet : Sheet) : Source :=
  ⟨sheet.get?, sheet.matching⟩

/-! ## Flattening -/

/-- A path with one more segment.  The root's path is empty and leaves no dot. -/
def joinPath (path key : String) : String :=
  if path = "" then key else path ++ "." ++ key

/-- A scalar under its path; a scalar without a path has no name to stand under. -/
def scalarLeaf (path : String) (scalar : Json) : List (String × Value) :=
  if path = "" then [] else [(path, Value.ofJson scalar)]

mutual

/-- The scalars of a document under their paths, in the order of the document. -/
def leaves (path : String) : Json → List (String × Value)
  | .null => scalarLeaf path .null
  | .boolean b => scalarLeaf path (.boolean b)
  | .number n => scalarLeaf path (.number n)
  | .text s => scalarLeaf path (.text s)
  | .list items => itemLeaves path 0 items
  | .object members => memberLeaves path members

/-- The scalars of a list's items, of which the first has that position. -/
def itemLeaves (path : String) (position : Nat) : List Json → List (String × Value)
  | [] => []
  | item :: rest =>
      leaves (joinPath path (String.ofList (Decimal.digitsOf position))) item ++
        itemLeaves path (position + 1) rest

def memberLeaves (path : String) : List (String × Json) → List (String × Value)
  | [] => []
  | (key, value) :: rest => leaves (joinPath path key) value ++ memberLeaves path rest

end

def ofJson (document : Json) : Sheet :=
  ofPairs (leaves "" document)

/-! ## Loading -/

inductive LoadError
  | file (failure : FileFailure)
  | malformed
  | notAnObject

/-- The sheet in the text of an export, which has to be an object. -/
def ofText (text : String) : Except LoadError Sheet :=
  match Json.parse? text with
  | some (.object members) => .ok (ofJson (.object members))
  | some _ => .error .notAnObject
  | none => .error .malformed

def load (content : Except FileFailure String) : Except LoadError Sheet :=
  match content with
  | .ok text => ofText text
  | .error failure => .error (.file failure)

end Sheet

end SheetImport
