import SheetImport.Template.Lookup

/-!
# Templates

A template describes a record as a tree.  Resolving it against a sheet gives a value of the same
shape in which every leaf is replaced by what it looks up.  Each resolved node is normalized; lists
then leave out what does not count as given.  The first leaf that fails, in the order of the tree,
ends the whole.
-/

namespace SheetImport

/-- A description of a record. -/
inductive Template
  | literal (value : Value)
  /-- A field; text is trimmed and an absent field is null. -/
  | field (name : String)
  /-- A field, or something else where it does not count as given.  Text is not trimmed. -/
  | fieldOr (name : String) (fallback : Option Value)
  /-- A value made out of some fields. -/
  | lookup (way : Lookup) (names : List String)
  /-- A value computed from the sheet in any way, under a label. -/
  | computed (label : String) (compute : Source → Except ImportError Value)
  /-- A record with a template for each member. -/
  | subtree (children : List (String × Template))
  | array (elements : List Template)

namespace Template

def null : Template :=
  .literal .null

def text (s : String) : Template :=
  .literal (.text s)

def integer (n : Int64) : Template :=
  .literal (.integer n)

def boolean (b : Bool) : Template :=
  .literal (.boolean b)

def emptyList : Template :=
  .array []

/-- A record from entries in which a key can come twice; the last one holds, in the first one's
place. -/
def ofEntries (entries : List (String × Template)) : Template :=
  .subtree (Keyed.ofPairs entries)

/-- The name under which a computed leaf is known. -/
def label? : Template → Option String
  | .lookup way names => some (way.name ++ "(" ++ String.intercalate ", " names ++ ")")
  | .computed label _ => some label
  | .literal _ => none
  | .field _ => none
  | .fieldOr _ _ => none
  | .subtree _ => none
  | .array _ => none

/-- What a plain field resolves to, before it is normalized. -/
def fieldValue (source : Source) (name : String) : Value :=
  ((source.get? name).getD .null).trimmed

/-- What a field with something to fall back on resolves to, before it is normalized. -/
def fieldOrValue (source : Source) (name : String) (fallback : Option Value) : Value :=
  (((source.get? name).filter Value.isTruthy).or fallback).getD .null

mutual

/-- Resolves a template against a sheet. -/
def resolve (source : Source) : Template → Except ImportError Value
  | .literal value => .ok value.normalized
  | .field name => .ok (fieldValue source name).normalized
  | .fieldOr name fallback => .ok (fieldOrValue source name fallback).normalized
  | .lookup way names => (way.apply source names).map Value.normalized
  | .computed _ compute => (compute source).map Value.normalized
  | .subtree children => (resolveChildren source children).map .object
  | .array elements =>
      (resolveElements source elements).map fun values => .list (values.filter Value.isTruthy)

def resolveChildren (source : Source) :
    List (String × Template) → Except ImportError (List (String × Value))
  | [] => .ok []
  | (key, child) :: rest =>
      match resolve source child with
      | .error e => .error e
      | .ok value =>
          match resolveChildren source rest with
          | .error e => .error e
          | .ok members => .ok ((key, value) :: members)

def resolveElements (source : Source) : List Template → Except ImportError (List Value)
  | [] => .ok []
  | element :: rest =>
      match resolve source element with
      | .error e => .error e
      | .ok value =>
          match resolveElements source rest with
          | .error e => .error e
          | .ok values => .ok (value :: values)

end

end Template

end SheetImport
