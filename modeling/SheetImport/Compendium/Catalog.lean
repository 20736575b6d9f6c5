import SheetImport.Compendium.Basic
import SheetImport.Log
import SheetImport.Pattern.Basic
import SheetImport.Settings

/-!
# Catalogs

A catalog keeps the index of the pack of each kind of item.  Its indexes are read when it is
populated and stay until it is refreshed; nothing is read in passing.
-/

namespace SheetImport

/-- The packs to read, and the rows of those that have been. -/
structure Catalog where
  packs : PackNames
  spells : Option (List PackRow)
  classes : Option (List PackRow)

namespace Catalog

def empty (packs : PackNames) : Catalog :=
  ⟨packs, none, none⟩

def rows? (catalog : Catalog) : ItemKind → Option (List PackRow)
  | .spell => catalog.spells
  | .classLevels => catalog.classes

def keep (catalog : Catalog) (kind : ItemKind) (rows : List PackRow) : Catalog :=
  match kind with
  | .spell => { catalog with spells := some rows }
  | .classLevels => { catalog with classes := some rows }

/-- For how many kinds the rows have been read. -/
def size (catalog : Catalog) : Nat :=
  packOrder.countP fun kind => (catalog.rows? kind).isSome

def isPopulated (catalog : Catalog) (kind : ItemKind) : Bool :=
  (catalog.rows? kind).isSome

/-- The rows for a kind; none when they have not been read. -/
def entries (catalog : Catalog) (kind : ItemKind) : List PackRow :=
  (catalog.rows? kind).getD []

/-- The rows for a kind whose name matches, in order; upper and lower case are not told apart. -/
def search (catalog : Catalog) (kind : ItemKind) (query : String) :
    Except MatchError (List PackRow) :=
  match Pattern.parseCaseless query with
  | .error fault => .error (.invalidQuery fault)
  | .ok pattern => .ok ((catalog.entries kind).filter fun row => pattern.isMatch row.name)

def findFirst (catalog : Catalog) (kind : ItemKind) (accepts : PackRow → Bool) : Option PackRow :=
  (catalog.entries kind).find? accepts

/-- The part of the program that the events of catalogs come from. -/
def target : String := "pcimport_engine::use_cases::matching::pack_cache"

def indexEvent (pack : String) (rows : List PackRow) : Event :=
  ⟨.debug, target, "Indexed compendium pack",
    [("pack", .quoted pack), ("entries", .number rows.length)]⟩

def unavailableEvent (pack : String) (e : MatchError) : Event :=
  ⟨.warn, target, "Compendium pack unavailable, skipping",
    [("pack", .quoted pack), ("error", .shown e.message)]⟩

def populatedEvent (catalog : Catalog) : Event :=
  ⟨.info, target, "Pack index cache populated", [("packs", .number catalog.size)]⟩

def clearedEvent : Event :=
  ⟨.info, target, "Pack index cache cleared", []⟩

variable {m : Type → Type} [Monad m] [Logging m]

/-- Reads the rows for some kinds, except those that are kept already.  A pack without index is
passed over. -/
def populateKinds (compendium : Compendium m) : Catalog → List ItemKind → m Catalog
  | catalog, [] => pure catalog
  | catalog, kind :: rest =>
      if catalog.isPopulated kind then populateKinds compendium catalog rest
      else do
        let pack := catalog.packs.pack kind
        match ← compendium.index pack with
        | .ok rows =>
            log (indexEvent pack rows)
            populateKinds compendium (catalog.keep kind rows) rest
        | .error e =>
            log (unavailableEvent pack e)
            populateKinds compendium catalog rest

def populate (compendium : Compendium m) (catalog : Catalog) : m Catalog := do
  let catalog ← populateKinds compendium catalog packOrder
  log catalog.populatedEvent
  return catalog

def refresh (compendium : Compendium m) (catalog : Catalog) : m Catalog := do
  log clearedEvent
  populate compendium (empty catalog.packs)

omit [Monad m] [Logging m] in
/-- The document for a row of a kind. -/
def fetch (compendium : Compendium m) (catalog : Catalog) (kind : ItemKind) (id : String) :
    m (Except MatchError (Option Json)) :=
  compendium.entry (catalog.packs.pack kind) id

end Catalog

end SheetImport
