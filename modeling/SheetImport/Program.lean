import SheetImport.Compendium.Matching
import SheetImport.Compendium.PackFolder
import SheetImport.EnvironmentFile.Assignments
import SheetImport.Host
import SheetImport.Import

/-!
# A run of the importer

A run is set up, chooses a format, loads a sheet, imports it and writes the result.  The first of
these that fails ends the run before anything is written.  Matching the items comes last and decides
nothing about what is written.  The log tells of all of this on the standard output, where the path
of the result is printed as well.
-/

namespace SheetImport

inductive RunFailure
  /-- An environment file gives a name a value that no variable can hold. -/
  | unassignable (name : String)
  | settings (e : SettingsError)
  | unknownFormat (id : String)
  | load (input : String) (e : Sheet.LoadError)
  | importing (e : ImportError)
  | writing (failure : FileFailure)

def RunFailure.message : RunFailure → String
  | .unassignable name => "An environment file gives " ++ name ++ " a value with a NUL in it"
  | .settings e => e.message
  | .unknownFormat id =>
      "Unknown import format '" ++ id ++ "' (available: " ++
        String.intercalate ", " Registry.builtIn.ids ++ ")"
  | .load input _ => "Failed to load " ++ input
  | .importing e => e.message
  | .writing failure => "IO error: " ++ failure.message

namespace Program

/-! ## Events -/

/-- The part of the program that its own events come from. -/
def target : String := "pcimport_engine"

def formatEvent (format : Format) : Event :=
  ⟨.info, target, "Using import format",
    [("format", .quoted format.id), ("name", .quoted format.displayName)]⟩

def loadEvent (input : String) (sheet : Sheet) : Event :=
  ⟨.debug, "pcimport_engine::infrastructure::field_sources", "Loaded field table",
    [("path", .shown input), ("fields", .number sheet.size)]⟩

def importEvent (result : Imported) : Event :=
  ⟨.info, target, "Imported character",
    [("actor", .quoted result.shownName), ("classes", .number (result.count .classLevels)),
      ("spells", .number (result.count .spell))]⟩

def writeEvent (path : String) : Event :=
  ⟨.info, importTarget, "Exported import result", [("path", .shown path)]⟩

def unmatchedEvent (item : Item) : Event :=
  ⟨.info, target, "Left unmatched", [("item", .shown item.name)]⟩

variable {m : Type → Type} [Monad m]

/-! ## Variables -/

def environmentFile : String := ".env"

def localEnvironmentFile : String := ".env.local"

/-- The paths of a directory and of all directories above it, the root last. -/
def directoriesUp (place : List String) : List String :=
  (List.range (place.length + 1)).reverse.map fun count =>
    "/" ++ String.intercalate "/" (place.take count)

/-- The first environment file in some directories.  Directories without one are passed over, but any
other obstacle ends the search. -/
def findEnvironmentFile (host : Host m) : List String → m (Option String)
  | [] => pure none
  | directory :: rest => do
      let path := pathIn directory environmentFile
      match ← host.isFile path with
      | .ok true => return some path
      | .ok false => findEnvironmentFile host rest
      | .error .notFound => findEnvironmentFile host rest
      | .error _ => return none

/-- The environment files: two at the root of the sources, and the nearest one at or above the working
directory. -/
def environmentPaths (host : Host m) : m (List String) := do
  let sources := pathIn (pathIn host.buildDirectory "..") ".."
  let nearest ← match ← host.workingDirectory with
    | .ok place => findEnvironmentFile host (directoriesUp place)
    | .error _ => pure none
  return [pathIn sources localEnvironmentFile, pathIn sources environmentFile] ++ nearest.toList

/-- The assignments of some files, one after the other.  A file that cannot be read has none. -/
def assignmentsOf (host : Host m) : List String → m (List EnvironmentFile.Assignment)
  | [] => pure []
  | path :: rest => do
      let own := match ← host.readBytes path with
        | .ok bytes => EnvironmentFile.assignments bytes
        | .error _ => []
      let others ← assignmentsOf host rest
      return own ++ others

/-- The values of the variables that are set. -/
def setVariables (host : Host m) : List String → m (Keyed String)
  | [] => pure []
  | name :: rest => do
      let value ← host.valueOf name
      let others ← setVariables host rest
      match value with
      | some value => pure ((name, value) :: others)
      | none => pure others

/-- The variable that holds a filter for the log. -/
def filterVariable : String := "RUST_LOG"

/-- The variables of a run.  Those that are set go before those of environment files, and of several
assignments to a name the first one holds. -/
def environment (host : Host m) : m (Except RunFailure (Keyed String)) := do
  let assignments ← assignmentsOf host (← environmentPaths host)
  let names := filterVariable :: Settings.variableNames ++
    assignments.flatMap EnvironmentFile.Assignment.names
  let set ← setVariables host names
  return (EnvironmentFile.assign set assignments).mapError .unassignable

/-- The filter that a variable asks for, or else the standard one. -/
def logFilter (filter? : String → Option LogFilter) (valueOf : String → Option String) :
    LogFilter :=
  ((valueOf filterVariable).bind filter?).getD .standard

/-! ## Stages -/

variable [Logging m]

/-- Imports the sheet that the settings name, in the format that they name. -/
def importSheet (host : Host m) (settings : Settings) : m (Except RunFailure Imported) :=
  match Registry.builtIn.get? settings.formatId with
  | none => return .error (.unknownFormat settings.formatId)
  | some format => do
      log (formatEvent format)
      match Sheet.load (← host.readText settings.input) with
      | .error e => return .error (.load settings.input e)
      | .ok sheet =>
          log (loadEvent settings.input sheet)
          match ← format.runLogged sheet.source with
          | .error e => return .error (.importing e)
          | .ok result =>
              log (importEvent result)
              return .ok result

def matchItems (host : Host m) (directory : String) (packs : PackNames) (items : List Item) :
    m (List Outcome) := do
  let compendium := PackFolder.compendium fun name => host.readText (pathIn directory name)
  let matching : StateT PackFolder m (List Outcome) := do
    let catalog ← (Catalog.empty packs).populate compendium
    catalog.matchItems compendium items
  let (outcomes, _) ← matching.run PackFolder.empty
  return outcomes

def writeResult (host : Host m) (directory : String) (result : Imported) :
    m (Except FileFailure String) := do
  let path := pathIn directory result.fileName
  match ← host.writeText path result.fileText with
  | .ok () =>
      log (writeEvent path)
      return .ok path
  | .error failure => return .error failure

/-- Matches the items of a result, if there is a directory with packs. -/
def matchResult (host : Host m) (settings : Settings) (result : Imported) : m Unit :=
  match settings.compendiumDir with
  | some directory => do
      let outcomes ← matchItems host directory settings.packs result.items
      let unmatched := outcomes.filter fun outcome => !outcome.isMatched
      logAll (unmatched.map fun outcome => unmatchedEvent outcome.item)
  | none => return ()

/-- Writes a result, if that is asked for, and matches its items. -/
def deliver (host : Host m) (settings : Settings) (result : Imported) :
    m (Except RunFailure Unit) := do
  if settings.writes then
    match ← writeResult host settings.outputDir result with
    | .error failure => return .error (.writing failure)
    | .ok path =>
        host.printLine path
        matchResult host settings result
        return .ok ()
  else
    matchResult host settings result
    return .ok ()

def run (host : Host m) : m (Except RunFailure Unit) := do
  match ← environment host with
  | .error e => return .error e
  | .ok set =>
      host.showLog (logFilter host.filter? (Keyed.get? set))
      match Settings.ofVariables (Keyed.get? set) with
      | .error e => return .error (.settings e)
      | .ok settings =>
          match ← importSheet host settings with
          | .error e => return .error e
          | .ok result => deliver host settings result

/-! ## How a run ends -/

/-- The code of a run.  That a variable cannot be assigned breaks the run off. -/
def code : Except RunFailure Unit → UInt32
  | .error (.unassignable _) => 101
  | .error _ => 1
  | .ok () => 0

/-- What is shown of a failure, without the causes that can be listed below it.  A run that is broken
off shows a blank line first. -/
def errorText : Except RunFailure Unit → String
  | .error (.unassignable name) => "\n" ++ (RunFailure.unassignable name).message ++ "\n"
  | .error e => "Error: " ++ e.message ++ "\n"
  | .ok () => ""

end Program

end SheetImport
