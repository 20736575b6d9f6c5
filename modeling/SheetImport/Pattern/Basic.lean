import SheetImport.Pattern.Parser
import SheetImport.Pattern.Search

/-!
# Patterns for names

Field names and pack rows are found by patterns.
-/

namespace SheetImport

/-- A pattern that has been read. -/
structure Pattern where
  node : Pattern.Node

namespace Pattern

/-- Reads a pattern that tells upper and lower case apart. -/
def parse (source : String) : Except PatternError Pattern :=
  (parseChars noFlags source.toList).map Pattern.mk

/-- Reads a pattern in which the letters A to Z stand for both their cases. -/
def parseCaseless (source : String) : Except PatternError Pattern :=
  (parseChars { noFlags with caseless := true } source.toList).map Pattern.mk

/-- Whether the pattern matches anywhere in the text. -/
def isMatch (pattern : Pattern) (s : String) : Bool :=
  pattern.node.matchesWithin s

end Pattern

end SheetImport
