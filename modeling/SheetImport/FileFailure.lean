/-!
# Failures of files

Why a file could not be read or written, and what is told about it.
-/

namespace SheetImport

/-- Why a file could not be read or written. -/
inductive FileFailure
  | notFound
  | permissionDenied
  | notDirectory
  | isDirectory
  | nameTooLong
  | notText
  | other (report : String)

def FileFailure.message : FileFailure → String
  | .notFound => "No such file or directory (os error 2)"
  | .permissionDenied => "Permission denied (os error 13)"
  | .notDirectory => "Not a directory (os error 20)"
  | .isDirectory => "Is a directory (os error 21)"
  | .nameTooLong => "File name too long (os error 36)"
  | .notText => "stream did not contain valid UTF-8"
  | .other report => report

def textOfBytes (bytes : ByteArray) : Except FileFailure String :=
  match String.fromUTF8? bytes with
  | some text => .ok text
  | none => .error .notText

end SheetImport
