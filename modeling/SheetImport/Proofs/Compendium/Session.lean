import SheetImport.Compendium.Matching
import SheetImport.Compendium.PackFolder

/-!
# Sessions with a folder of packs

A session is what is done over time with one catalog over one folder of packs.  Between its
operations the files can change in any way.  The disk keeps a note of every reading, so that it can
be told from these notes, and not from what is kept in memory, what a pack gave and when.
-/

namespace SheetImport

/-! ## Readings -/

/-- What reading a file of each name gives. -/
abbrev Directory := String → Except FileFailure String

/-- The files as they are, and all readings so far in order. -/
structure Disk where
  files : Directory
  readings : List (String × Except FileFailure String)

namespace Disk

/-- Reads a file and notes what that gave. -/
def read (name : String) : StateM Disk (Except FileFailure String) := fun disk =>
  (disk.files name, { disk with readings := disk.readings ++ [(name, disk.files name)] })

/-- The documents that one reading gave for a pack. -/
def documentsFor? (pack : String) (reading : String × Except FileFailure String) :
    Option (List Json) :=
  if reading.1 = PackFolder.fileName pack then (PackFolder.documentsOf reading.2).toOption
  else none

/-- The documents that the first successful reading of a pack gave. -/
def firstReading? (disk : Disk) (pack : String) : Option (List Json) :=
  disk.readings.findSome? (documentsFor? pack)

end Disk

/-! ## Operations -/

/-- A catalog over a folder of packs on a disk. -/
structure Session where
  catalog : Catalog
  folder : PackFolder
  disk : Disk

inductive Operation
  | populate
  | refresh
  | search (kind : ItemKind) (query : String)
  | findFirst (kind : ItemKind) (accepts : PackRow → Bool)
  | fetch (kind : ItemKind) (id : String)
  | matchItem (item : Item)
  | matchItems (items : List Item)
  /-- The folder is asked directly for the rows of a pack. -/
  | index (pack : String)
  /-- The folder is asked directly for a document of a pack. -/
  | entry (pack id : String)
  /-- Files are written, removed or spoilt. -/
  | change (files : Directory)

/-- What an operation answers.  Reading packs answers for how many kinds rows are kept. -/
abbrev Operation.Answer : Operation → Type
  | populate => Nat
  | refresh => Nat
  | search _ _ => Except MatchError (List PackRow)
  | findFirst _ _ => Option PackRow
  | fetch _ _ => Except MatchError (Option Json)
  | matchItem _ => Except MatchError (Option Match)
  | matchItems _ => List Outcome
  | index _ => Except MatchError (List PackRow)
  | entry _ _ => Except MatchError (Option Json)
  | change _ => Unit

namespace Session

/-- A session in which nothing has been read. -/
def start (packs : PackNames) (files : Directory) : Session :=
  ⟨.empty packs, .empty, ⟨files, []⟩⟩

/-- The folder as a compendium. -/
def compendium : Compendium (StateT PackFolder (StateM Disk)) :=
  PackFolder.compendium Disk.read

def ask {α : Type} (s : Session) (query : StateT PackFolder (StateM Disk) α) : α × Session :=
  let ((answer, folder), disk) := (query.run s.folder).run s.disk
  (answer, { s with folder, disk })

def perform (s : Session) : (operation : Operation) → operation.Answer × Session
  | .populate =>
      let (catalog, next) := s.ask (s.catalog.populate compendium)
      (catalog.size, { next with catalog })
  | .refresh =>
      let (catalog, next) := s.ask (s.catalog.refresh compendium)
      (catalog.size, { next with catalog })
  | .search kind query => (s.catalog.search kind query, s)
  | .findFirst kind accepts => (s.catalog.findFirst kind accepts, s)
  | .fetch kind id => s.ask (s.catalog.fetch compendium kind id)
  | .matchItem item => s.ask (s.catalog.matchItem compendium item)
  | .matchItems items => s.ask (s.catalog.matchItems compendium items)
  | .index pack => s.ask (compendium.index pack)
  | .entry pack id => s.ask (compendium.entry pack id)
  | .change files => ((), { s with disk := { s.disk with files } })

/-- The session behind some operations. -/
def after (s : Session) : List Operation → Session
  | [] => s
  | operation :: rest => (s.perform operation).2.after rest

/-- The documents of a pack as the folder gets at them. -/
def packDocuments (s : Session) (pack : String) : Except PackFailure (List Json) × Session :=
  s.ask fun folder => PackFolder.documents Disk.read folder pack

/-- What the folder answers for the rows of a pack with such documents. -/
def indexAnswer (pack : String) :
    Except PackFailure (List Json) → Except MatchError (List PackRow)
  | .ok documents => .ok (documents.filterMap PackRow.ofDocument?)
  | .error failure => .error (.indexUnavailable pack failure)

/-- What the folder answers for an item of a pack with such documents. -/
def entryAnswer (pack id : String) :
    Except PackFailure (List Json) → Except MatchError (Option Json)
  | .ok documents => .ok (documents.find? (PackFolder.hasId id))
  | .error failure => .error (.entryLookup pack id (.pack failure))

/-- What is logged in a session leaves the disk as it is. -/
theorem logAll_eq (events : List Event) (disk : Disk) :
    (logAll events : StateM Disk Unit) disk = ((), disk) := by
  induction events with
  | nil => rfl
  | cons event rest ih => exact ih

theorem ask_index (s : Session) (pack : String) :
    s.ask (compendium.index pack) =
      (indexAnswer pack (s.packDocuments pack).1, (s.packDocuments pack).2) := by
  obtain ⟨⟨⟨result, folder⟩, disk⟩, hdocuments⟩ :
      ∃ found, PackFolder.documents Disk.read s.folder pack s.disk = found := ⟨_, rfl⟩
  have hpack : s.packDocuments pack = (result, { s with folder, disk }) := by
    simp only [packDocuments, ask, StateT.run, hdocuments]
  rw [hpack]
  simp only [ask, compendium, PackFolder.compendium, PackFolder.index, StateT.run, bind,
    StateT.bind, hdocuments]
  cases result with
  | ok documents => simp only [StateT.bind, logAll_eq]; rfl
  | error failure => rfl

theorem ask_entry (s : Session) (pack id : String) :
    s.ask (compendium.entry pack id) =
      (entryAnswer pack id (s.packDocuments pack).1, (s.packDocuments pack).2) := by
  rfl

@[simp] theorem ask_pure {α : Type} (s : Session) (answer : α) :
    s.ask (pure answer) = (answer, s) := by
  rfl

@[simp] theorem ask_log (s : Session) (event : Event) : s.ask (log event) = ((), s) := by
  rfl

@[simp] theorem ask_bind {α β : Type} (s : Session) (query : StateT PackFolder (StateM Disk) α)
    (next : α → StateT PackFolder (StateM Disk) β) :
    s.ask (query >>= next) = (s.ask query).2.ask (next (s.ask query).1) := by
  rfl

theorem ask_eq_of_run (s : Session) {α : Type} {query : StateT PackFolder (StateM Disk) α}
    {answer : α} {folder : PackFolder} {disk : Disk}
    (h : query s.folder s.disk = ((answer, folder), disk)) :
    s.ask query = (answer, { s with folder, disk }) := by
  simp only [ask, StateT.run, h]

end Session

end SheetImport
