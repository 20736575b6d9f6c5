/-!
# Faults of patterns

Each way in which the text of a pattern can be wrong has a cause of its own.
-/

namespace SheetImport

/-- Why a text is no pattern. -/
inductive PatternError
  | tooMuchNesting
  | tooLarge
  | duplicateGroupName
  | unclosedGroup
  | unclosedGroupDirective
  | unopenedGroup
  | lookaround
  | emptyFlags
  | missingGroupName
  | invalidGroupName
  | unclosedGroupName
  | emptyGroupName
  | unknownFlag
  | repeatedNegation
  | duplicateFlag
  | unclosedFlags
  | danglingNegation
  | noDecimalDigits
  | invalidDecimal
  | hexBraceDigit
  | unclosedHexBrace
  | emptyHexBrace
  | invalidHexBrace
  | shortHex
  | hexDigit
  | invalidHex
  | missingHex
  | unfinishedEscape
  | backreference
  | unicodeClass
  | unknownEscape
  | nothingToRepeat
  | nothingToCount
  | unclosedCount
  | unclosedCountAfterLeast
  | unclosedCountAfterComma
  | unclosedCountAfterMost
  | invalidCount
  | countsOutOfOrder
  | unclosedSet
  | unclosedSetAfterNegation
  | unclosedSetAfterBracket
  | unclosedSetAfterDash
  | unclosedSetAfterItem
  | rangeOfSets
  | rangeOutOfOrder
  | lookInSet
  | nestedSet
  | setIntersection
  | setDifference
  | setSymmetricDifference
  | unclosedBoundary
  | unknownBoundary
  | unfinishedBoundary
  deriving DecidableEq

def PatternError.message : PatternError → String
  | .tooMuchNesting => "pattern has too much nesting"
  | .tooLarge => "compiled regex exceeded size limit"
  | .duplicateGroupName => "duplicate capture group name"
  | .unclosedGroup => "found open group without closing ')'"
  | .unclosedGroupDirective => "expected closing ')', but got end of pattern"
  | .unopenedGroup => "found closing ')' without matching '('"
  | .lookaround => "look-around is not supported"
  | .emptyFlags => "empty flag directive '(?)' is not allowed"
  | .missingGroupName => "expected capture group name, but got end of pattern"
  | .invalidGroupName => "invalid group name"
  | .unclosedGroupName => "expected end of capture group name, but got end of pattern"
  | .emptyGroupName => "empty capture group names are not allowed"
  | .unknownFlag => "unrecognized inline flag"
  | .repeatedNegation => "inline flag negation cannot be repeated"
  | .duplicateFlag => "duplicate inline flag is not allowed"
  | .unclosedFlags => "expected ':' or ')' to end inline flags, but got end of pattern"
  | .danglingNegation => "inline flags cannot end with negation directive"
  | .noDecimalDigits => "expected decimal number, but found no digits"
  | .invalidDecimal => "got invalid decimal number"
  | .hexBraceDigit => "expected hexadecimal number in braces, but got non-hex digit"
  | .unclosedHexBrace =>
      "expected hexadecimal number, but saw end of pattern before closing brace"
  | .emptyHexBrace => "expected hexadecimal number in braces, but got no digits"
  | .invalidHexBrace => "got invalid hexadecimal number in braces"
  | .shortHex => "expected fixed length hexadecimal number, but saw end of pattern first"
  | .hexDigit => "expected fixed length hexadecimal number, but got non-hex digit"
  | .invalidHex => "got invalid fixed length hexadecimal number"
  | .missingHex => "expected hexadecimal number, but saw end of pattern first"
  | .unfinishedEscape =>
      "saw start of escape sequence, but saw end of pattern before it finished"
  | .backreference => "backreferences are not supported"
  | .unicodeClass => "Unicode character classes are not supported"
  | .unknownEscape => "unrecognized escape sequence"
  | .nothingToRepeat => "uncounted repetition operator must be applied to a sub-expression"
  | .nothingToCount => "counted repetition operator must be applied to a sub-expression"
  | .unclosedCount => "found unclosed counted repetition operator"
  | .unclosedCountAfterLeast => "found incomplete and unclosed counted repetition operator"
  | .unclosedCountAfterComma => "found counted repetition operator with a comma that is unclosed"
  | .unclosedCountAfterMost => "found counted repetition with min and max that is unclosed"
  | .invalidCount => "expected closing brace for counted repetition, but got something else"
  | .countsOutOfOrder => "found counted repetition with a min bigger than its max"
  | .unclosedSet => "found unclosed character class"
  | .unclosedSetAfterNegation => "negated character class has no closing bracket"
  | .unclosedSetAfterBracket =>
      "character class begins with literal ']' but has no closing bracket"
  | .unclosedSetAfterDash => "non-empty character class has no closing bracket after dash"
  | .unclosedSetAfterItem => "non-empty character class has no closing bracket"
  | .rangeOfSets => "character class ranges must start and end with a single character"
  | .rangeOutOfOrder => "invalid range in character class"
  | .lookInSet => "invalid escape sequence in character class"
  | .nestedSet => "nested character classes are not supported"
  | .setIntersection => "character class intersection is not supported"
  | .setDifference => "character class difference is not supported"
  | .setSymmetricDifference => "character class symmetric difference is not supported"
  | .unclosedBoundary =>
      "special word boundary assertion is unclosed or has an invalid character"
  | .unknownBoundary => "special word boundary assertion is unrecognized"
  | .unfinishedBoundary =>
      "found start of special word boundary or repetition without an end"

end SheetImport
