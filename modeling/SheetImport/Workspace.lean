import SheetImport.Host
import SheetImport.Keyed

/-!
# Workspaces

A `Workspace` holds variables, directories and files in memory, and a `Terminal` adds what has been
printed.  Together they are surroundings in which a run can be followed step by step.
-/

namespace SheetImport

/-- Variables, files and directories in memory.  A place is the list of the names that lead to it from
the root, and every directory above a file or directory is there too. -/
structure Workspace where
  environment : Keyed String
  /-- The place of the working directory. -/
  workingDirectory : List String
  directories : List (List String)
  files : List (List String × ByteArray)

namespace Workspace

/-- The names between the slashes of a path. -/
def pathNames : List Char → List (List Char)
  | [] => [[]]
  | c :: rest =>
      if c = '/' then [] :: pathNames rest
      else match pathNames rest with
        | [] => [[c]]
        | name :: names => (c :: name) :: names

def file? (workspace : Workspace) (place : List String) : Option ByteArray :=
  (workspace.files.find? fun file => file.1 == place).map Prod.snd

def isDirectory (workspace : Workspace) (place : List String) : Bool :=
  place.isPrefixOf workspace.workingDirectory || workspace.directories.any place.isPrefixOf ||
    workspace.files.any fun file => place.isPrefixOf file.1 && file.1 != place

/-- The longest name that a file or directory can have, in bytes. -/
def longestName : Nat := 255

/-- The length from which on a path is refused, in bytes. -/
def pathLimit : Nat := 4096

/-- Follows names from a place on.  There is nothing above the root: two dots lead back to it. -/
def walk (workspace : Workspace) : List String → List String → Except FileFailure (List String)
  | place, [] => .ok place
  | place, name :: rest =>
      if !workspace.isDirectory place then
        .error (if (workspace.file? place).isSome then .notDirectory else .notFound)
      else if name = "" ∨ name = "." then walk workspace place rest
      else if name = ".." then walk workspace place.dropLast rest
      else if longestName < name.utf8ByteSize then .error .nameTooLong
      else walk workspace (place ++ [name]) rest

/-- The place that a path leads to, from the root if it begins with a slash and from the working
directory if not. -/
def locate (workspace : Workspace) (path : String) : Except FileFailure (List String) :=
  if path.toList.contains '\x00' then
    .error (.other "file name contained an unexpected NUL byte")
  else if path = "" then .error .notFound
  else if pathLimit ≤ path.utf8ByteSize then .error .nameTooLong
  else
    let start := if path.toList.head? = some '/' then [] else workspace.workingDirectory
    workspace.walk start ((pathNames path.toList).map String.ofList)

def isFile (workspace : Workspace) (path : String) : Except FileFailure Bool :=
  match workspace.locate path with
  | .error failure => .error failure
  | .ok place =>
      if (workspace.file? place).isSome then .ok true
      else if workspace.isDirectory place then .ok false
      else .error .notFound

def readBytes (workspace : Workspace) (path : String) : Except FileFailure ByteArray :=
  match workspace.locate path with
  | .error failure => .error failure
  | .ok place =>
      match workspace.file? place with
      | some bytes => .ok bytes
      | none => .error (if workspace.isDirectory place then .isDirectory else .notFound)

def writeText (workspace : Workspace) (path text : String) : Except FileFailure Workspace :=
  match workspace.locate path with
  | .error failure => .error failure
  | .ok place =>
      if workspace.isDirectory place then .error .isDirectory
      else .ok { workspace with
        files := workspace.files.filter (fun file => file.1 != place) ++ [(place, text.toUTF8)] }

end Workspace

/-- What has been printed: a line, or an event of the log. -/
inductive Printed
  | line (s : String)
  | event (event : Event)

/-- A workspace and what a run in it has printed. -/
structure Terminal where
  workspace : Workspace
  /-- Which events are shown from now on. -/
  filter : LogFilter
  printed : List Printed

/-- Actions on a workspace that can print. -/
def TerminalM (α : Type) : Type :=
  StateM Terminal α

namespace TerminalM

instance : Monad TerminalM :=
  inferInstanceAs (Monad (StateM Terminal))

def ask {α : Type} (question : Workspace → α) : TerminalM α := fun terminal =>
  (question terminal.workspace, terminal)

instance : Logging TerminalM where
  log event := fun terminal =>
    ((), if terminal.filter event then
      { terminal with printed := terminal.printed ++ [.event event] }
    else terminal)

/-- A workspace and a terminal as surroundings of a run. -/
def host (buildDirectory : String) (filter? : String → Option LogFilter) : Host TerminalM where
  buildDirectory
  filter?
  valueOf name := ask fun workspace => Keyed.get? workspace.environment name
  workingDirectory := ask fun workspace => .ok workspace.workingDirectory
  isFile path := ask (·.isFile path)
  readBytes path := ask (·.readBytes path)
  writeText path text := fun terminal =>
    match terminal.workspace.writeText path text with
    | .ok workspace => (.ok (), { terminal with workspace })
    | .error failure => (.error failure, terminal)
  showLog filter := fun terminal => ((), { terminal with filter })
  printLine s := fun terminal =>
    ((), { terminal with printed := terminal.printed ++ [.line s] })

end TerminalM

end SheetImport
