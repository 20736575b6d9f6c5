import SheetImport.Pattern.Piece
import SheetImport.Text.LetterTable

/-!
# Reading patterns

A pattern is read from left to right.  The groups that are open around the place that is read form a
stack, so that one step reads one element, opens or closes a group, starts an alternative or repeats
the element before it.
-/

namespace SheetImport.Pattern

/-- How deep groups may stand in each other, and how high the tree of a pattern may be. -/
def nestingLimit : Nat := 50

/-- What is read so far of one group: complete alternatives, and the pieces of the last one; both
last first. -/
structure Partial where
  alternatives : List Piece
  pieces : List Piece

def Partial.push (done : Partial) (piece : Piece) : Partial :=
  { done with pieces := piece :: done.pieces }

def Partial.piece (done : Partial) : Piece :=
  Piece.choice (Piece.sequence done.pieces.reverse :: done.alternatives).reverse

/-- What a group that counts has: its number, from one on, and perhaps a name. -/
structure Mark where
  number : Nat
  name : Option String

/-- A group that is open: what was read before it, the flags outside, and its mark if it counts. -/
structure Group where
  outside : Partial
  flags : Flags
  mark : Option Mark

/-- A place in a pattern: the text behind it, the flags, how many groups have been marked and the
names among them, the groups around it, innermost first, and what is read of the innermost one. -/
structure Place where
  rest : List Char
  flags : Flags
  marked : Nat
  names : List String
  groups : List Group
  done : Partial

def isNameChar (isFirst : Bool) (c : Char) : Bool :=
  c == '_' || Text.alphabetic.contains c ||
    (!isFirst && (c == '.' || c == '[' || c == ']' || Text.numeric.contains c))

/-- Reads the characters of a group's name up to the closing bracket. -/
def nameChars : List Char → List Char → Except PatternError (List Char × List Char)
  | [], _ => .error .unclosedGroupName
  | c :: rest, name =>
      if c = '>' then .ok (name.reverse, rest)
      else if isNameChar name.isEmpty c then nameChars rest (c :: name)
      else .error .invalidGroupName

/-- Reads a group's name, which must differ from the names so far. -/
def groupName (names : List String) (cs : List Char) : Except PatternError (String × List Char) :=
  if cs.isEmpty then .error .missingGroupName
  else do
    let (chars, rest) ← nameChars cs []
    if chars.isEmpty then throw .emptyGroupName
    let name := String.ofList chars
    if names.contains name then throw .duplicateGroupName
    pure (name, rest)

def Flags.switch? (flags : Flags) (on : Bool) : Char → Option Flags
  | 'i' => some { flags with caseless := on }
  | 'm' => some { flags with multiLine := on }
  | 's' => some { flags with dotAll := on }
  | 'R' => some { flags with crlf := on }
  | 'x' => some { flags with verbose := on }
  | 'U' => some flags
  | 'u' => some flags
  | _ => none

/-- Reads flags up to the colon or parenthesis behind them.  `seen` are the flags read so far, and
`dash` says whether a dash has been read and whether it came last. -/
def readFlags : Flags → List Char → Bool × Bool → List Char →
    Except PatternError (Flags × List Char)
  | _, _, _, [] => .error .unclosedFlags
  | flags, seen, (negated, dangling), c :: rest =>
      if c = ':' ∨ c = ')' then
        if dangling then .error .danglingNegation else .ok (flags, c :: rest)
      else if c = '-' then
        if negated then .error .repeatedNegation else readFlags flags seen (true, true) rest
      else match flags.switch? (!negated) c with
        | none => .error .unknownFlag
        | some flags =>
            if seen.contains c then .error .duplicateFlag
            else readFlags flags (c :: seen) (negated, false) rest

def Place.enter (place : Place) (inner : Flags) (mark : Option Mark) (rest : List Char) :
    Except PatternError Place :=
  if nestingLimit ≤ place.groups.length then .error .tooMuchNesting
  else .ok
    { rest, flags := inner
      marked := (mark.map Mark.number).getD place.marked
      names := (mark.bind Mark.name).toList ++ place.names
      groups := ⟨place.done, place.flags, mark⟩ :: place.groups
      done := ⟨[], []⟩ }

/-- Reads what stands behind an opening parenthesis.  Flags that stand alone hold until the end
of the group around them. -/
def Place.openGroup (place : Place) (cs : List Char) : Except PatternError Place :=
  let named (cs : List Char) : Except PatternError Place := do
    let (name, rest) ← groupName place.names cs
    place.enter place.flags (some ⟨place.marked + 1, some name⟩) rest
  match skip place.flags cs with
  | '?' :: '=' :: _ => .error .lookaround
  | '?' :: '!' :: _ => .error .lookaround
  | '?' :: '<' :: '=' :: _ => .error .lookaround
  | '?' :: '<' :: '!' :: _ => .error .lookaround
  | '?' :: 'P' :: '<' :: rest => named rest
  | '?' :: '<' :: rest => named rest
  | ['?'] => .error .unclosedGroupDirective
  | '?' :: ')' :: _ => .error .emptyFlags
  | '?' :: rest => do
      let (flags, behind) ← readFlags place.flags [] (false, false) rest
      match behind with
      | ')' :: behind => pure { place with rest := behind, flags }
      | behind => place.enter flags none behind.tail
  | rest => place.enter place.flags (some ⟨place.marked + 1, none⟩) rest

def Place.closeGroup (place : Place) (rest : List Char) : Except PatternError Place :=
  match place.groups with
  | [] => .error .unopenedGroup
  | group :: outer =>
      let inner := place.done.piece
      let piece := match group.mark with
        | some mark => inner.grouped mark.number mark.name
        | none => inner
      .ok { place with rest, flags := group.flags, groups := outer, done := group.outside.push piece }

/-- The text behind the question mark that makes a repetition reluctant. -/
def dropReluctant : List Char → List Char
  | '?' :: rest => rest
  | rest => rest

def Place.repeatLast (place : Place) (missing : PatternError)
    (counts : Except PatternError ((Nat × Option Nat) × List Char)) : Except PatternError Place :=
  match place.done.pieces with
  | [] => .error missing
  | last :: before => do
      let ((least, most), rest) ← counts
      pure
        { place with
          rest
          done := { place.done with pieces := last.repeated least most :: before } }

/-- Reads decimal digits; in verbose mode they may stand apart. -/
def decimalDigits (flags : Flags) : Nat → List Char → List Char → List Char × List Char
  | 0, cs, digits => (digits.reverse, cs)
  | fuel + 1, cs, digits =>
      match cs with
      | c :: rest =>
          if c.isDigit then decimalDigits flags fuel (skip flags rest) (c :: digits)
          else (digits.reverse, cs)
      | [] => (digits.reverse, [])

/-- Text without white space at its start, and in verbose mode without comments behind it. -/
def dropSpaces (flags : Flags) : Nat → List Char → List Char
  | 0, cs => cs
  | fuel + 1, cs =>
      match cs with
      | c :: rest => if Text.isSpace c then dropSpaces flags fuel (skip flags rest) else cs
      | [] => []

/-- Reads a count of at most 32 bits with white space around it. -/
def decimal (flags : Flags) (cs : List Char) : Except PatternError (Nat × List Char) :=
  let start := cs.dropWhile Text.isSpace
  let (digits, rest) := decimalDigits flags (start.length + 1) start []
  let value := Nat.ofDigitChars 10 digits 0
  if digits.isEmpty then .error .noDecimalDigits
  else if UInt32.size ≤ value then .error .invalidDecimal
  else .ok (value, dropSpaces flags (rest.length + 1) rest)

def counts (flags : Flags) (cs : List Char) :
    Except PatternError ((Nat × Option Nat) × List Char) := do
  let start := skip flags cs
  if start.isEmpty then throw .unclosedCount
  let (least, rest) ← decimal flags start
  let (most, rest) ← match rest with
    | [] => throw .unclosedCountAfterLeast
    | ',' :: rest =>
        match skip flags rest with
        | [] => throw .unclosedCountAfterComma
        | '}' :: rest => pure (none, '}' :: rest)
        | rest => do
            let (most, rest) ← decimal flags rest
            if rest.isEmpty then throw .unclosedCountAfterMost
            pure (some most, rest)
    | rest => pure (some least, rest)
  match rest with
  | '}' :: rest =>
      if most.any (· < least) then throw .countsOutOfOrder
      pure ((least, most), dropReluctant (skip flags rest))
  | _ => throw .invalidCount

def Place.push (place : Place) (atom : Atom) (rest : List Char) : Place :=
  { place with rest, done := place.done.push (Piece.ofAtom atom) }

/-- Reads one element that starts with that character. -/
def Place.step (place : Place) (c : Char) (rest : List Char) : Except PatternError Place :=
  match c with
  | '(' => place.openGroup rest
  | ')' => place.closeGroup rest
  | '|' =>
      let alternative := Piece.sequence place.done.pieces.reverse
      .ok { place with rest, done := ⟨alternative :: place.done.alternatives, []⟩ }
  | '[' => do
      let (atom, rest) ← bracketSet place.flags rest
      pure (place.push atom rest)
  | '?' => place.repeatLast .nothingToRepeat (.ok ((0, some 1), dropReluctant rest))
  | '*' => place.repeatLast .nothingToRepeat (.ok ((0, none), dropReluctant rest))
  | '+' => place.repeatLast .nothingToRepeat (.ok ((1, none), dropReluctant rest))
  | '{' => place.repeatLast .nothingToCount (counts place.flags rest)
  | '\\' => do
      let (atom, rest) ← escape place.flags rest
      pure (place.push atom rest)
  | '.' => .ok (place.push (.set (dot place.flags)) rest)
  | '^' => .ok (place.push (.look (startAnchor place.flags)) rest)
  | '$' => .ok (place.push (.look (endAnchor place.flags)) rest)
  | c => .ok (place.push (literal place.flags c) rest)

def Place.finish (place : Place) : Except PatternError Node :=
  if !place.groups.isEmpty then .error .unclosedGroup
  else
    let piece := place.done.piece
    if nestingLimit < piece.height then .error .tooMuchNesting
    else if Extent.limit < piece.extent.total then .error .tooLarge
    else .ok piece.node

/-- Reads elements to the end of the text.  Each of them takes a character at least, so the length of
the text bounds their number. -/
def readAll : Nat → Place → Except PatternError Node
  | 0, place => place.finish
  | fuel + 1, place =>
      match skip place.flags place.rest with
      | [] => place.finish
      | c :: rest =>
          match place.step c rest with
          | .error e => .error e
          | .ok next => readAll fuel next

def noFlags : Flags :=
  ⟨false, false, false, false, false⟩

def parseChars (flags : Flags) (cs : List Char) : Except PatternError Node :=
  readAll (cs.length + 1) ⟨cs, flags, 0, [], [], ⟨[], []⟩⟩

end SheetImport.Pattern
