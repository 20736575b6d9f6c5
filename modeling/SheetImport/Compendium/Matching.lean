import SheetImport.Compendium.Catalog

/-!
# Matching

An item is matched with the first row of its kind whose name begins with the item's name.  Levels and
subclass of a class are then entered into the document that the row stands for.
-/

namespace SheetImport

/-- Whether a row's name begins with an item's name. -/
def isFuzzyMatch (rowName itemName : String) : Bool :=
  itemName.toList.isPrefixOf rowName.toList

/-- A document with other levels and another subclass in its data.  Data that is missing is made; data
that is no object is left as it is. -/
def withClassLevels (document : Json) (levels subclass : Option String) : Json :=
  match document with
  | .object members =>
      match (Keyed.get? members "data").getD (.object []) with
      | .object data =>
          let data := Keyed.insert data "levels" (Json.ofText? levels)
          let data := Keyed.insert data "subclass" (Json.ofText? subclass)
          .object (Keyed.insert members "data" (.object data))
      | _ => document
  | _ => document

structure Match where
  row : PackRow
  document : Json

structure Outcome where
  item : Item
  found : Option Match

def Outcome.isMatched (outcome : Outcome) : Bool :=
  outcome.found.isSome

/-- The part of the program that the events of matching come from. -/
def matchTarget : String := "pcimport_engine::use_cases::matching::item_matcher"

def Item.noMatchEvent (item : Item) : Event :=
  ⟨.debug, matchTarget, "No compendium match",
    [("item", .shown item.name), ("kind", .shown item.kind.word)]⟩

def Item.failureEvent (item : Item) (e : MatchError) : Event :=
  ⟨.warn, matchTarget, "Item matching failed",
    [("item", .shown item.name), ("kind", .shown item.kind.word), ("error", .shown e.message)]⟩

def matchedEvent (outcomes : List Outcome) : Event :=
  ⟨.info, matchTarget, "Item matching complete",
    [("matched", .number (outcomes.countP Outcome.isMatched)),
      ("total", .number outcomes.length)]⟩

namespace Catalog

variable {m : Type → Type} [Monad m]

def matchItem (compendium : Compendium m) (catalog : Catalog) (item : Item) :
    m (Except MatchError (Option Match)) :=
  match catalog.findFirst item.kind fun row => isFuzzyMatch row.name item.name with
  | none => pure (.ok none)
  | some row => do
      match ← catalog.fetch compendium item.kind row.id with
      | .error e => pure (.error e)
      | .ok none => pure (.ok none)
      | .ok (some document) =>
          let document := match item.kind with
            | .classLevels => withClassLevels document item.levels item.subclass
            | .spell => document
          pure (.ok (some ⟨row, document⟩))

variable [Logging m]

/-- What comes of matching an item.  A failure leaves the item unmatched and goes no further. -/
def outcome (compendium : Compendium m) (catalog : Catalog) (item : Item) : m Outcome := do
  match ← catalog.matchItem compendium item with
  | .ok (some found) => return ⟨item, some found⟩
  | .ok none =>
      log item.noMatchEvent
      return ⟨item, none⟩
  | .error e =>
      log (item.failureEvent e)
      return ⟨item, none⟩

def outcomes (compendium : Compendium m) (catalog : Catalog) : List Item → m (List Outcome)
  | [] => pure []
  | item :: rest => do
      let first ← catalog.outcome compendium item
      let others ← outcomes compendium catalog rest
      pure (first :: others)

/-- Matches items one after the other. -/
def matchItems (compendium : Compendium m) (catalog : Catalog) (items : List Item) :
    m (List Outcome) := do
  let outcomes ← catalog.outcomes compendium items
  log (matchedEvent outcomes)
  return outcomes

end Catalog

end SheetImport
