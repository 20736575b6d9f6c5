import SheetImport.Format.FormExport
import SheetImport.Format.StructuredExport
import SheetImport.Log

/-!
# Imports

An import resolves a format's template and then runs its extractors.  Its result is written to a file
that is named after the actor; the characters that a path gives a meaning to are replaced there, so
the file always lies directly in the directory it is written to.
-/

namespace SheetImport

/-- The formats that are known from the start. -/
def Registry.builtIn : Registry :=
  [FormExport.format, StructuredExport.format]

/-- What an import gives: the actor record and the items. -/
structure Imported where
  formatId : String
  actor : Value
  items : List Item

namespace Imported

def actorName? (result : Imported) : Option String :=
  (result.actor.pointer? "name").bind Value.text?

/-- The name of the actor, or a word for an actor without one. -/
def shownName (result : Imported) : String :=
  result.actorName?.getD "unnamed"

end Imported

/-! ## Importing -/

/-- The part of the program that its import events come from. -/
def importTarget : String := "pcimport_engine::use_cases::import::importer"

def Format.startEvent (format : Format) : Event :=
  ⟨.info, importTarget, "Starting import", [("format", .shown format.id)]⟩

def Format.failureEvent (format : Format) (e : ImportError) : Event :=
  ⟨.error, importTarget, "Actor template failed",
    [("format", .shown format.id), ("error", .shown e.message)]⟩

def Extractor.event (extractor : Extractor) (items : List Item) : Event :=
  ⟨.debug, importTarget, "Extractor finished",
    [("extractor", .quoted extractor.name), ("items", .number items.length)]⟩

def Imported.event (result : Imported) : Event :=
  ⟨.info, importTarget, "Import complete",
    [("format", .shown result.formatId), ("actor", .quoted result.shownName),
      ("items", .number result.items.length)]⟩

section Importing

variable {m : Type → Type} [Monad m] [Logging m]

/-- The items of all extractors, one after the other. -/
def runExtractors (source : Source) : List Extractor → m (Except ImportError (List Item))
  | [] => return .ok []
  | extractor :: rest =>
      match extractor.run source with
      | .error e => return .error e
      | .ok items => do
          log (extractor.event items)
          match ← runExtractors source rest with
          | .error e => return .error e
          | .ok more => return .ok (items ++ more)

/-- Imports a sheet and logs how that goes.  Nothing is returned unless all of it succeeds. -/
def Format.runLogged (format : Format) (source : Source) : m (Except ImportError Imported) := do
  log format.startEvent
  match format.template.resolve source with
  | .error e =>
      log (format.failureEvent e)
      return .error e
  | .ok actor =>
      match ← runExtractors source format.extractors with
      | .error e => return .error e
      | .ok items =>
          let result : Imported := ⟨format.id, actor, items⟩
          log result.event
          return .ok result

end Importing

/-- The items that some extractors give. -/
def extractAll (source : Source) (extractors : List Extractor) :
    Except ImportError (List Item) :=
  runExtractors (m := Id) source extractors

/-- What importing a sheet gives. -/
def Format.run (format : Format) (source : Source) : Except ImportError Imported :=
  format.runLogged (m := Id) source

theorem extractAll_cons (source : Source) (extractor : Extractor) (rest : List Extractor) :
    extractAll source (extractor :: rest) = match extractor.run source with
      | .error e => .error e
      | .ok items => match extractAll source rest with
        | .error e => .error e
        | .ok more => .ok (items ++ more) := by
  rw [extractAll, runExtractors]
  cases extractor.run source <;> rfl

theorem Format.run_eq (format : Format) (source : Source) :
    format.run source = match format.template.resolve source with
      | .error e => .error e
      | .ok actor => match extractAll source format.extractors with
        | .error e => .error e
        | .ok items => .ok ⟨format.id, actor, items⟩ := by
  rw [run, runLogged]
  cases format.template.resolve source <;> rfl

namespace Imported

def count (result : Imported) (kind : ItemKind) : Nat :=
  result.items.countP fun item => item.kind = kind

/-- A character of a file's name in place of one that a path gives a meaning to. -/
def fileChar (c : Char) : Char :=
  if c = '/' ∨ c = '\\' ∨ c = ':' ∨ c = '\x00' then '_' else c

def fileName (result : Imported) : String :=
  "fvtt-" ++ String.ofList (result.shownName.toList.map fileChar) ++ ".json"

/-- The actor and the items as the game system keeps them. -/
def document (result : Imported) : Json :=
  .object [
    ("actor", result.actor.toJson),
    ("items", .list (result.items.map Item.hostData))]

def fileText (result : Imported) : String :=
  result.document.pretty

def toJson (result : Imported) : Json :=
  .object [
    ("format_id", .text result.formatId),
    ("actor", result.actor.toJson),
    ("items", .list (result.items.map Item.toJson))]

end Imported

end SheetImport
