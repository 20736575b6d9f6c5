import SheetImport.Compendium.Basic
import SheetImport.Json.Reader
import SheetImport.Log

/-!
# Packs in files

Each pack is a file with a list of documents.  The first successful reading of a pack is kept and
answers everything asked later, whatever becomes of the file; a failed reading is forgotten.
-/

namespace SheetImport

/-- The packs that have been read, under their names. -/
structure PackFolder where
  loaded : Keyed (List Json)

namespace PackFolder

def empty : PackFolder :=
  ⟨[]⟩

def hasDots : List Char → Bool
  | '.' :: '.' :: _ => true
  | _ :: rest => hasDots rest
  | [] => false

def isPackName (pack : String) : Bool :=
  let cs := pack.toList
  !(hasDots cs || cs.contains '/' || cs.contains '\\')

def fileName (pack : String) : String :=
  pack ++ ".json"

def documentsOf (content : Except FileFailure String) : Except PackFailure (List Json) :=
  match content with
  | .error failure => .error (.unreadable failure)
  | .ok text =>
      match Json.parse? text with
      | some (.list documents) => .ok documents
      | _ => .error .malformed

/-- The part of the program that the events of packs come from. -/
def target : String := "pcimport_engine::infrastructure::compendium_files"

def loadEvent (pack : String) (documents : List Json) : Event :=
  ⟨.debug, target, "Loaded compendium pack file",
    [("pack", .quoted pack), ("documents", .number documents.length)]⟩

def skipEvent (pack : String) : Event :=
  ⟨.warn, target, "Skipping malformed pack entry", [("pack", .quoted pack), ("error", .reason)]⟩

/-- The events for the documents that have no row. -/
def skipEvents (pack : String) (documents : List Json) : List Event :=
  (documents.filter fun document => (PackRow.ofDocument? document).isNone).map fun _ =>
    skipEvent pack

variable {m : Type → Type} [Monad m] [Logging m]

/-- The documents of a pack, from what is kept or else from its file. -/
def documents (readFile : String → m (Except FileFailure String)) (folder : PackFolder)
    (pack : String) : m (Except PackFailure (List Json) × PackFolder) :=
  if isPackName pack then
    match Keyed.get? folder.loaded pack with
    | some documents => pure (.ok documents, folder)
    | none => do
        match documentsOf (← readFile (fileName pack)) with
        | .ok documents =>
            log (loadEvent pack documents)
            pure (.ok documents, ⟨Keyed.insert folder.loaded pack documents⟩)
        | .error failure => pure (.error failure, folder)
  else pure (.error .invalidName, folder)

def hasId (id : String) (document : Json) : Bool :=
  (document.member? "_id").bind Json.text? == some id

/-- The rows of a pack; documents without a row are passed over. -/
def index (readFile : String → m (Except FileFailure String)) (pack : String) :
    StateT PackFolder m (Except MatchError (List PackRow)) := fun folder => do
  let (result, folder) ← documents readFile folder pack
  match result with
  | .ok documents =>
      logAll (skipEvents pack documents)
      pure (.ok (documents.filterMap PackRow.ofDocument?), folder)
  | .error failure => pure (.error (.indexUnavailable pack failure), folder)

/-- The first document of a pack that has the id. -/
def entry (readFile : String → m (Except FileFailure String)) (pack id : String) :
    StateT PackFolder m (Except MatchError (Option Json)) := fun folder => do
  let (result, folder) ← documents readFile folder pack
  pure
    (match result with
      | .ok documents => .ok (documents.find? (hasId id))
      | .error failure => .error (.entryLookup pack id (.pack failure)),
      folder)

/-- The compendium that the files of a folder make up. -/
def compendium (readFile : String → m (Except FileFailure String)) :
    Compendium (StateT PackFolder m) :=
  ⟨index readFile, entry readFile⟩

end PackFolder

end SheetImport
