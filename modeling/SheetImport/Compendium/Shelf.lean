import SheetImport.Compendium.Basic

/-!
# Compendiums in memory

A compendium can be laid out by hand: for each pack its rows, its documents, and the failures that it
reports.
-/

namespace SheetImport

structure ShelfPack where
  rows : List PackRow
  documents : Keyed Json
  entryFailures : Keyed String
  indexFailure : Option String

/-- Packs laid out by hand, under their names. -/
abbrev Shelf := Keyed ShelfPack

namespace Shelf

def index (shelf : Shelf) (pack : String) : Except MatchError (List PackRow) :=
  match Keyed.get? shelf pack with
  | none => .error (.indexUnavailable pack (.reported "unknown pack"))
  | some laidOut =>
      match laidOut.indexFailure with
      | some message => .error (.indexUnavailable pack (.reported message))
      | none => .ok laidOut.rows

/-- The document of an item; an unknown pack has none. -/
def entry (shelf : Shelf) (pack id : String) : Except MatchError (Option Json) :=
  match Keyed.get? shelf pack with
  | none => .ok none
  | some laidOut =>
      match Keyed.get? laidOut.entryFailures id with
      | some message => .error (.entryLookup pack id (.reported message))
      | none => .ok (Keyed.get? laidOut.documents id)

def compendium {m : Type → Type} [Monad m] (shelf : Shelf) : Compendium m :=
  ⟨fun pack => pure (shelf.index pack), fun pack id => pure (shelf.entry pack id)⟩

end Shelf

end SheetImport
