import SheetImport.FileFailure
import SheetImport.Json.Basic
import SheetImport.Pattern.Error

/-!
# Compendiums

A compendium is a catalogue of ready-made items in packs.  A pack tells its index, which has a row
for each item, and it gives the full document of an item by the id in its row.
-/

namespace SheetImport

structure PackRow where
  id : String
  name : String
  image : Option String
  deriving DecidableEq

def optionalText? : Json → Option (Option String)
  | .null => some none
  | .text s => some (some s)
  | _ => none

/-- The row of a document: an object with an id, a name and perhaps an image, or a list of these.  A
document of any other shape has no row. -/
def PackRow.ofDocument? : Json → Option PackRow
  | .object members =>
      match Keyed.get? members "_id", Keyed.get? members "name" with
      | some (.text id), some (.text name) =>
          (optionalText? ((Keyed.get? members "img").getD .null)).map (⟨id, name, ·⟩)
      | _, _ => none
  | .list [.text id, .text name] => some ⟨id, name, none⟩
  | .list [.text id, .text name, image] => (optionalText? image).map (⟨id, name, ·⟩)
  | _ => none

inductive PackFailure
  | invalidName
  | unreadable (failure : FileFailure)
  | malformed
  | reported (message : String)

def PackFailure.message : PackFailure → String
  | .invalidName => "invalid pack name"
  | .unreadable failure => failure.message
  | .malformed => "not a list of documents"
  | .reported message => message

inductive EntryFailure
  | pack (failure : PackFailure)
  | reported (message : String)

inductive MatchError
  | indexUnavailable (pack : String) (failure : PackFailure)
  | entryLookup (pack id : String) (failure : EntryFailure)
  | invalidQuery (fault : PatternError)

def indexMessage (pack : String) (failure : PackFailure) : String :=
  "Index for pack " ++ pack ++ " unavailable: " ++ failure.message

def MatchError.message : MatchError → String
  | .indexUnavailable pack failure => indexMessage pack failure
  | .entryLookup pack id failure =>
      "Lookup of " ++ id ++ " in pack " ++ pack ++ " failed: " ++
        (match failure with
        | .pack failure => indexMessage pack failure
        | .reported message => message)
  | .invalidQuery fault => "Invalid search query: " ++ fault.message

/-- What a compendium can be asked. -/
structure Compendium (m : Type → Type) where
  /-- The rows of a pack, in the pack's order. -/
  index : String → m (Except MatchError (List PackRow))
  /-- The document of an item, or nothing when the pack has none under that id. -/
  entry : String → String → m (Except MatchError (Option Json))

end SheetImport
