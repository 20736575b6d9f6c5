import SheetImport.Pattern.Error
import SheetImport.Value.Document

/-!
# Failures of imports

A missing field is never a failure.  What is left are lookups that were given something they cannot
use; the first of them ends the import.
-/

namespace SheetImport

inductive ImportError
  /-- A lookup was given a list of fields that it cannot use. -/
  | invalidArguments (lookup : String) (reason : String)
  /-- A lookup that works on text was given something else. -/
  | notText (lookup : String) (value : Value)
  /-- A pattern for field names is none. -/
  | invalidPattern (fault : PatternError)
  /-- A computed leaf failed for a reason of its own. -/
  | computation (leaf : String) (reason : String)

def ImportError.message : ImportError → String
  | .invalidArguments lookup reason => "Invalid arguments for " ++ lookup ++ ": " ++ reason
  | .notText lookup value => lookup ++ " expected text but found " ++ value.serialize
  | .invalidPattern fault => "Invalid field pattern: " ++ fault.message
  | .computation leaf reason => "Computed leaf '" ++ leaf ++ "' failed: " ++ reason

end SheetImport
