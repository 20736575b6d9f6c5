import SheetImport.FileFailure
import SheetImport.Log

/-!
# Surroundings of a run

What a run asks of its surroundings is gathered in a `Host`: variables, files, and a standard output,
on which it prints lines and shows its log.
-/

namespace SheetImport

/-- What a run may ask of its surroundings. -/
structure Host (m : Type → Type) where
  /-- The directory of the part of the sources that the program was built from. -/
  buildDirectory : String
  /-- The filter that some text stands for; none if it is written wrongly. -/
  filter? : String → Option LogFilter
  valueOf : String → m (Option String)
  /-- The names on the way from the root to the working directory. -/
  workingDirectory : m (Except FileFailure (List String))
  /-- Whether what a path leads to is a file; a path that leads nowhere fails. -/
  isFile : String → m (Except FileFailure Bool)
  readBytes : String → m (Except FileFailure ByteArray)
  /-- Gives a file a new text, all of it or nothing. -/
  writeText : String → String → m (Except FileFailure Unit)
  /-- Begins to show those events of the log that a filter lets through. -/
  showLog : LogFilter → m Unit
  printLine : String → m Unit

def Host.readText {m : Type → Type} [Monad m] (host : Host m) (path : String) :
    m (Except FileFailure String) := do
  return (← host.readBytes path).bind textOfBytes

def pathIn (directory name : String) : String :=
  if directory = "" then name
  else if directory.toList.getLast? = some '/' then directory ++ name
  else directory ++ "/" ++ name

end SheetImport
