import SheetImport.Pattern.Error
import SheetImport.Pattern.Node
import SheetImport.Text.Whitespace

/-!
# Single elements of a pattern

An atom is a character, a set of characters or a condition on a place.  Its text is a character that
stands for itself, an escape or a set in brackets.  Each reader takes the text from where it stands
and returns what it read with the text behind it.
-/

namespace SheetImport.Pattern

/-- What has been switched on by flags.  The flags for greed and for Unicode are accepted and change
nothing. -/
structure Flags where
  caseless : Bool
  multiLine : Bool
  dotAll : Bool
  crlf : Bool
  verbose : Bool

inductive Atom
  | char (c : Char)
  | set (chars : CharSet)
  | look (condition : Look)

/-- A character that stands for itself, or for both cases of itself. -/
def literal (flags : Flags) (c : Char) : Atom :=
  if flags.caseless && c.isAlpha then .set (.bothCases c) else .char c

/-- Text without white space and comments at its start. -/
def dropBlanks : Bool → List Char → List Char
  | _, [] => []
  | true, c :: rest => dropBlanks (c != '\n') rest
  | false, c :: rest =>
      if Text.isSpace c then dropBlanks false rest
      else if c = '#' then dropBlanks true rest
      else c :: rest

/-- In verbose mode, text without white space and comments at its start. -/
def skip (flags : Flags) (cs : List Char) : List Char :=
  if flags.verbose then dropBlanks false cs else cs

def hexValue? (c : Char) : Option Nat :=
  if '0' ≤ c ∧ c ≤ '9' then some (c.toNat - '0'.toNat)
  else if 'a' ≤ c ∧ c ≤ 'f' then some (c.toNat - 'a'.toNat + 10)
  else if 'A' ≤ c ∧ c ≤ 'F' then some (c.toNat - 'A'.toNat + 10)
  else none

def charOfCode? (n : Nat) : Option Char :=
  if n.isValidChar then some (Char.ofNat n) else none

/-- Reads hexadecimal digits up to the closing brace: how many there are, and their value. -/
def bracedHex (flags : Flags) :
    Nat → List Char → Nat × Nat → Except PatternError ((Nat × Nat) × List Char)
  | 0, _, _ => .error .unclosedHexBrace
  | fuel + 1, cs, (count, value) =>
      match skip flags cs with
      | [] => .error .unclosedHexBrace
      | '}' :: rest => .ok ((count, value), skip flags rest)
      | c :: rest =>
          match hexValue? c with
          | some digit => bracedHex flags fuel rest (count + 1, 16 * value + digit)
          | none => .error .hexBraceDigit

def fixedHex (flags : Flags) : Nat → List Char → Nat → Except PatternError (Nat × List Char)
  | 0, cs, value => .ok (value, cs)
  | _ + 1, [], _ => .error .shortHex
  | left + 1, c :: rest, value =>
      match hexValue? c with
      | some digit => fixedHex flags left (skip flags rest) (16 * value + digit)
      | none => .error .hexDigit

/-- Reads a character by its code point, behind the letter that says how many digits there are. -/
def codePoint (flags : Flags) (digits : Nat) (cs : List Char) :
    Except PatternError (Atom × List Char) :=
  match skip flags cs with
  | [] => .error .missingHex
  | '{' :: rest => do
      let ((count, value), rest) ← bracedHex flags (rest.length + 1) rest (0, 0)
      if count = 0 then throw .emptyHexBrace
      match charOfCode? value with
      | some c => pure (literal flags c, rest)
      | none => throw .invalidHexBrace
  | cs => do
      let (value, rest) ← fixedHex flags digits cs 0
      match charOfCode? value with
      | some c => pure (literal flags c, rest)
      | none => throw .invalidHex

/-- The sets that have a name of their own. -/
def namedSet? (name : String) : Option CharSet :=
  match name with
  | "alnum" => some ⟨[⟨'0', '9'⟩, ⟨'A', 'Z'⟩, ⟨'a', 'z'⟩]⟩
  | "alpha" => some ⟨[⟨'A', 'Z'⟩, ⟨'a', 'z'⟩]⟩
  | "ascii" => some ⟨[⟨'\x00', '\x7f'⟩]⟩
  | "blank" => some ⟨[⟨'\t', '\t'⟩, ⟨' ', ' '⟩]⟩
  | "cntrl" => some ⟨[⟨'\x00', '\x1f'⟩, ⟨'\x7f', '\x7f'⟩]⟩
  | "digit" => some ⟨[⟨'0', '9'⟩]⟩
  | "graph" => some ⟨[⟨'!', '~'⟩]⟩
  | "lower" => some ⟨[⟨'a', 'z'⟩]⟩
  | "print" => some ⟨[⟨' ', '~'⟩]⟩
  | "punct" => some ⟨[⟨'!', '/'⟩, ⟨':', '@'⟩, ⟨'[', '\x60'⟩, ⟨'\x7b', '~'⟩]⟩
  | "space" => some ⟨[⟨'\t', '\r'⟩, ⟨' ', ' '⟩]⟩
  | "upper" => some ⟨[⟨'A', 'Z'⟩]⟩
  | "word" => some ⟨[⟨'0', '9'⟩, ⟨'A', 'Z'⟩, ⟨'_', '_'⟩, ⟨'a', 'z'⟩]⟩
  | "xdigit" => some ⟨[⟨'0', '9'⟩, ⟨'A', 'F'⟩, ⟨'a', 'f'⟩]⟩
  | _ => none

/-- The set that a letter behind a backslash stands for. -/
def letterSet? (c : Char) : Option CharSet :=
  match c with
  | 'd' => namedSet? "digit"
  | 's' => namedSet? "space"
  | 'w' => namedSet? "word"
  | 'D' => (namedSet? "digit").map CharSet.complement
  | 'S' => (namedSet? "space").map CharSet.complement
  | 'W' => (namedSet? "word").map CharSet.complement
  | _ => none

/-- Characters that a backslash takes literally: all of ASCII but letters, digits and angle
brackets. -/
def isEscapable (c : Char) : Bool :=
  c.toNat < 128 && !c.isAlphanum && c != '<' && c != '>'

/-- Characters that the name of a special boundary is made of. -/
def isBoundaryChar (c : Char) : Bool :=
  c.isAlpha || c == '-'

def boundaryName (flags : Flags) : Nat → List Char → List Char → List Char × List Char
  | 0, cs, name => (name.reverse, cs)
  | fuel + 1, cs, name =>
      match cs with
      | c :: rest =>
          if isBoundaryChar c then boundaryName flags fuel (skip flags rest) (c :: name)
          else (name.reverse, cs)
      | [] => (name.reverse, [])

/-- Reads what may follow the escape for a word boundary: a brace with the name of a special
boundary, unless it turns out to be a count. -/
def boundary (flags : Flags) (cs : List Char) : Except PatternError (Atom × List Char) :=
  match cs with
  | '{' :: rest =>
      match skip flags rest with
      | [] => .error .unfinishedBoundary
      | c :: inner =>
          if isBoundaryChar c then
            let (name, behind) := boundaryName flags (inner.length + 1) (c :: inner) []
            match behind with
            | '}' :: behind =>
                match String.ofList name with
                | "start" => .ok (.look .wordStart, behind)
                | "end" => .ok (.look .wordEnd, behind)
                | "start-half" => .ok (.look .wordStartHalf, behind)
                | "end-half" => .ok (.look .wordEndHalf, behind)
                | _ => .error .unknownBoundary
            | _ => .error .unclosedBoundary
          else .ok (.look .wordBoundary, cs)
  | _ => .ok (.look .wordBoundary, cs)

def escape (flags : Flags) : List Char → Except PatternError (Atom × List Char)
  | [] => .error .unfinishedEscape
  | c :: rest =>
      if c.isDigit then .error .backreference
      else if c = 'p' ∨ c = 'P' then .error .unicodeClass
      else if c = 'x' then codePoint flags 2 rest
      else if c = 'u' then codePoint flags 4 rest
      else if c = 'U' then codePoint flags 8 rest
      else if isEscapable c then .ok (literal flags c, rest)
      else match letterSet? c with
        | some set => .ok (.set set, rest)
        | none =>
            match c with
            | 'a' => .ok (.char '\x07', rest)
            | 'f' => .ok (.char '\x0c', rest)
            | 't' => .ok (.char '\t', rest)
            | 'n' => .ok (.char '\n', rest)
            | 'r' => .ok (.char '\r', rest)
            | 'v' => .ok (.char '\x0b', rest)
            | 'A' => .ok (.look .textStart, rest)
            | 'z' => .ok (.look .textEnd, rest)
            | 'b' => boundary flags rest
            | 'B' => .ok (.look .noWordBoundary, rest)
            | '<' => .ok (.look .wordStart, rest)
            | '>' => .ok (.look .wordEnd, rest)
            | _ => .error .unknownEscape

def dot (flags : Flags) : CharSet :=
  if flags.dotAll then .all
  else if flags.crlf then CharSet.complement ⟨[⟨'\n', '\n'⟩, ⟨'\r', '\r'⟩]⟩
  else (CharSet.single '\n').complement

def startAnchor (flags : Flags) : Look :=
  if flags.multiLine then (if flags.crlf then .crlfLineStart else .lineStart) else .textStart

/-- The condition that a dollar sign stands for. -/
def endAnchor (flags : Flags) : Look :=
  if flags.multiLine then (if flags.crlf then .crlfLineEnd else .lineEnd) else .textEnd

/-! ## Sets in brackets -/

/-- Reads a set by its name between bracket and colon, if that is what stands there. -/
def bracketName? : List Char → Option (CharSet × List Char)
  | '[' :: ':' :: rest =>
      let (negated, rest) := match rest with
        | '^' :: rest => (true, rest)
        | rest => (false, rest)
      match rest.dropWhile (· != ':') with
      | ':' :: ']' :: behind =>
          (namedSet? (String.ofList (rest.takeWhile (· != ':')))).map fun set =>
            (if negated then set.complement else set, behind)
      | _ => none
  | _ => none

/-- The first character behind white space and one comment sign, if there is any. -/
def behindBlanks? : Bool → List Char → Option Char
  | _, [] => none
  | inComment, c :: rest =>
      if Text.isSpace c then behindBlanks? inComment rest
      else if !inComment && c == '#' then behindBlanks? true rest
      else some c

/-- The character that decides whether a dash makes a range. -/
def afterDash? (flags : Flags) (cs : List Char) : Option Char :=
  if flags.verbose then (behindBlanks? false cs).orElse fun _ => cs.head? else cs.head?

def setItem (flags : Flags) : List Char → Except PatternError (Atom × List Char)
  | '\\' :: rest => escape flags rest
  | c :: rest => .ok (.char c, rest)
  | [] => .error .unclosedSetAfterItem

def Atom.charSet : Atom → Except PatternError CharSet
  | .char c => .ok (.single c)
  | .set chars => .ok chars
  | .look _ => .error .lookInSet

/-- The character that an end of a range has to be. -/
def Atom.rangeEnd : Atom → Except PatternError Char
  | .char c => .ok c
  | .set _ => .error .rangeOfSets
  | .look _ => .error .rangeOfSets

/-- Reads an element between brackets, or a range that starts with it. -/
def setRange (flags : Flags) (cs : List Char) :
    Except PatternError (List CharRange × List Char) := do
  let (item, rest) ← setItem flags cs
  match skip flags rest with
  | [] => throw .unclosedSetAfterItem
  | '-' :: behind =>
      if afterDash? flags behind = some ']' ∨ afterDash? flags behind = some '-' then
        pure ((← item.charSet).ranges, '-' :: behind)
      else match skip flags behind with
        | [] => throw .unclosedSetAfterDash
        | behind => do
            let (other, rest) ← setItem flags behind
            let first ← item.rangeEnd
            let last ← other.rangeEnd
            if last < first then throw .rangeOutOfOrder
            pure ([⟨first, last⟩], rest)
  | rest => pure ((← item.charSet).ranges, rest)

/-- Reads the elements of a set up to its closing bracket, behind those that are read already. -/
def setItems (flags : Flags) :
    Nat → List Char → List CharRange → Except PatternError (List CharRange × List Char)
  | 0, _, _ => .error .unclosedSet
  | fuel + 1, cs, known =>
      match skip flags cs with
      | [] => .error .unclosedSet
      | ']' :: rest => .ok (known, rest)
      | '[' :: rest =>
          match bracketName? ('[' :: rest) with
          | some (set, behind) => setItems flags fuel behind (known ++ set.ranges)
          | none => .error .nestedSet
      | '&' :: '&' :: _ => .error .setIntersection
      | '-' :: '-' :: _ => .error .setDifference
      | '~' :: '~' :: _ => .error .setSymmetricDifference
      | cs => do
          let (ranges, rest) ← setRange flags cs
          setItems flags fuel rest (known ++ ranges)

/-- Reads dashes at the start of a set. -/
def leadingDashes (flags : Flags) :
    Nat → List Char → List CharRange → Except PatternError (List CharRange × List Char)
  | 0, _, _ => .error .unclosedSetAfterDash
  | fuel + 1, cs, known =>
      match cs with
      | '-' :: rest =>
          match skip flags rest with
          | [] => .error .unclosedSetAfterDash
          | rest => leadingDashes flags fuel rest (⟨'-', '-'⟩ :: known)
      | cs => .ok (known, cs)

/-- Reads a set behind its opening bracket.  Case is set aside before the set is negated. -/
def bracketSet (flags : Flags) (cs : List Char) : Except PatternError (Atom × List Char) := do
  let start ← match skip flags cs with
    | [] => throw .unclosedSet
    | start => pure start
  let (negated, start) ← match start with
    | '^' :: rest =>
        match skip flags rest with
        | [] => throw .unclosedSetAfterNegation
        | rest => pure (true, rest)
    | start => pure (false, start)
  let (known, start) ← leadingDashes flags (start.length + 1) start []
  let (known, start) ← match known, start with
    | [], ']' :: rest =>
        match skip flags rest with
        | [] => throw .unclosedSetAfterBracket
        | rest => pure ([⟨']', ']'⟩], rest)
    | known, start => pure (known, start)
  let (ranges, rest) ← setItems flags (start.length + 1) start known
  let set := CharSet.ofRanges ranges
  let set := if flags.caseless then set.caseless else set
  pure (.set (if negated then set.complement else set), rest)

end SheetImport.Pattern
