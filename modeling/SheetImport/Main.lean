import SheetImport.Program
import SheetImport.Workspace

/-!
# The command line

The run of the importer with the files and variables of the operating system.
-/

namespace SheetImport

def FileFailure.ofError : IO.Error → FileFailure
  | .noFileOrDirectory _ _ _ => .notFound
  | .noSuchThing _ _ _ => .notFound
  | .permissionDenied _ _ _ => .permissionDenied
  | .inappropriateType _ code details =>
      if code = 20 then .notDirectory else if code = 21 then .isDirectory else .other details
  | .invalidArgument _ code details => if code = 36 then .nameTooLong else .other details
  | e => .other e.toString

/-- Actions of the operating system, with the filter of the log. -/
def ConsoleM (α : Type) : Type :=
  StateT LogFilter IO α

namespace ConsoleM

instance : Monad ConsoleM :=
  inferInstanceAs (Monad (StateT LogFilter IO))

instance : MonadLift IO ConsoleM where
  monadLift action := fun filter => do return (← action, filter)

/-- The outcome of an action on a file. -/
def attempt {α : Type} (action : IO α) : ConsoleM (Except FileFailure α) := fun filter => do
  try
    return (.ok (← action), filter)
  catch e => return (.error (.ofError e), filter)

def levelText : Level → String
  | .error => "ERROR"
  | .warn => " WARN"
  | .info => " INFO"
  | .debug => "DEBUG"

def fieldText : FieldValue → String
  | .quoted s => s.quote
  | .shown s => s
  | .number n => toString n
  | .reason => "malformed"

/-- A line of the log, without the time at its beginning. -/
def eventText (event : Event) : String :=
  levelText event.level ++ " " ++ event.target ++ ": " ++ event.message ++
    String.join (event.fields.map fun field => " " ++ field.1 ++ "=" ++ fieldText field.2)

instance : Logging ConsoleM where
  log event := fun filter => do
    if filter event then
      IO.println (eventText event)
    return ((), filter)

/-- Filters of a single level, the only ones that are read here. -/
def filter? : String → Option LogFilter
  | "off" => some .silent
  | "" => some fun event => event.level == .error
  | "error" => some fun event => event.level == .error
  | "warn" => some fun event => event.level == .error || event.level == .warn
  | "info" => some fun event => event.level != .debug
  | "debug" => some fun _ => true
  | "trace" => some fun _ => true
  | _ => none

/-- The host of a run from the root of the sources. -/
def host : Host ConsoleM where
  buildDirectory := "crates/engine"
  filter?
  valueOf name := IO.getEnv name
  workingDirectory := attempt do
    let path := (← IO.currentDir).toString
    return ((Workspace.pathNames path.toList).map String.ofList).filter (· != "")
  isFile path := attempt do
    let found ← IO.FS.realPath path
    return !(← found.isDir)
  readBytes path := attempt (IO.FS.readBinFile path)
  writeText path text := attempt (IO.FS.writeFile path text)
  showLog filter := fun _ => return ((), filter)
  printLine s := IO.println s

/-- Runs an action; nothing of the log is shown until it asks for that. -/
def run {α : Type} (action : ConsoleM α) : IO α := do
  let (value, _) ← StateT.run action LogFilter.silent
  return value

end ConsoleM

end SheetImport

open SheetImport in
/-- Runs the importer and shows what came of it. -/
def main : IO UInt32 := do
  let result ← ConsoleM.run (Program.run ConsoleM.host)
  IO.eprint (Program.errorText result)
  return Program.code result
