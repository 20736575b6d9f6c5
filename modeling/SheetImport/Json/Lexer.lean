import SheetImport.Json.Token

/-!
# From text to tokens

A document's text is read one character at a time.  `Lexer.step` is the whole grammar of tokens;
what stands before a character matters only through the state it led to.
-/

namespace SheetImport.Json

/-- The characters that text units stand for.  A unit from an escape can be half a surrogate pair;
the halves count only when they come in order. -/
def charsOfUnits? : List Nat → Option (List Char)
  | [] => some []
  | unit :: rest =>
      if 0xD800 ≤ unit ∧ unit < 0xDC00 then
        match rest with
        | low :: rest' =>
            if 0xDC00 ≤ low ∧ low < 0xE000 then
              (charsOfUnits? rest').map
                (Char.ofNat (0x10000 + (unit - 0xD800) * 0x400 + (low - 0xDC00)) :: ·)
            else none
        | [] => none
      else if 0xDC00 ≤ unit ∧ unit < 0xE000 then none
      else (charsOfUnits? rest).map (Char.ofNat unit :: ·)

def hexValue? (c : Char) : Option Nat :=
  if '0' ≤ c ∧ c ≤ '9' then some (c.toNat - '0'.toNat)
  else if 'a' ≤ c ∧ c ≤ 'f' then some (c.toNat - 'a'.toNat + 10)
  else if 'A' ≤ c ∧ c ≤ 'F' then some (c.toNat - 'A'.toNat + 10)
  else none

namespace Lexer

/-- What a character is part of. -/
inductive Mode
  | between
  /-- A string, of which these units (last first) are read. -/
  | text (units : List Nat)
  /-- The character behind a backslash. -/
  | escape (units : List Nat)
  /-- An escape by number: digits still to come and the value so far. -/
  | hex (units : List Nat) (left : Nat) (value : Nat)
  /-- A fixed word: what is left of it, and the token it makes. -/
  | word (left : List Char) (token : Token)
  /-- A number, of which these characters (last first) are read. -/
  | numeral (chars : List Char)

/-- A position in a text: what it is in the middle of, and the tokens before it (last first). -/
structure State where
  mode : Mode
  tokens : List Token

def State.emit (s : State) (token : Token) : State :=
  ⟨.between, token :: s.tokens⟩

def isBlank (c : Char) : Bool :=
  c == ' ' || c == '\n' || c == '\t' || c == '\r'

def continuesNumeral (c : Char) : Bool :=
  c.isDigit || c == '.' || c == 'e' || c == 'E' || c == '+' || c == '-'

/-- The unit that a letter behind a backslash stands for. -/
def escaped? (c : Char) : Option Nat :=
  if c = '"' ∨ c = '\\' ∨ c = '/' then some c.toNat
  else if c = 'b' then some 0x08
  else if c = 'f' then some 0x0c
  else if c = 'n' then some 0x0a
  else if c = 'r' then some 0x0d
  else if c = 't' then some 0x09
  else none

/-- A character outside all tokens starts one, is one or is blank. -/
def start (s : State) (c : Char) : Option State :=
  if isBlank c then some ⟨.between, s.tokens⟩
  else if c = '[' then some (s.emit .openList)
  else if c = ']' then some (s.emit .closeList)
  else if c = '{' then some (s.emit .openObject)
  else if c = '}' then some (s.emit .closeObject)
  else if c = ',' then some (s.emit .comma)
  else if c = ':' then some (s.emit .colon)
  else if c = '"' then some ⟨.text [], s.tokens⟩
  else if c = 'n' then some ⟨.word ['u', 'l', 'l'] .null, s.tokens⟩
  else if c = 't' then some ⟨.word ['r', 'u', 'e'] (.boolean true), s.tokens⟩
  else if c = 'f' then some ⟨.word ['a', 'l', 's', 'e'] (.boolean false), s.tokens⟩
  else if c.isDigit ∨ c = '-' then some ⟨.numeral [c], s.tokens⟩
  else none

/-- The number that ends here, if it is one. -/
def endNumeral (s : State) (chars : List Char) : Option State :=
  (Numeral.ofChars? chars.reverse).map fun n => s.emit (.number (Number.ofNumeral? n))

def step (s : State) (c : Char) : Option State :=
  match s.mode with
  | .between => start s c
  | .text units =>
      if c = '"' then some (s.emit (.text ((charsOfUnits? units.reverse).map String.ofList)))
      else if c = '\\' then some ⟨.escape units, s.tokens⟩
      else if c.toNat < 0x20 then none
      else some ⟨.text (c.toNat :: units), s.tokens⟩
  | .escape units =>
      if c = 'u' then some ⟨.hex units 4 0, s.tokens⟩
      else (escaped? c).map fun unit => ⟨.text (unit :: units), s.tokens⟩
  | .hex units left value =>
      (hexValue? c).map fun digit =>
        let next := 16 * value + digit
        if left ≤ 1 then ⟨.text (next :: units), s.tokens⟩ else ⟨.hex units (left - 1) next, s.tokens⟩
  | .word [] token => start (s.emit token) c
  | .word [last] token => if c = last then some (s.emit token) else none
  | .word (first :: rest) token => if c = first then some ⟨.word rest token, s.tokens⟩ else none
  | .numeral chars =>
      if continuesNumeral c then some ⟨.numeral (c :: chars), s.tokens⟩
      else (endNumeral s chars).bind (start · c)

/-- The tokens, in order, if no token is left unfinished. -/
def finish (s : State) : Option (List Token) :=
  match s.mode with
  | .between => some s.tokens.reverse
  | .numeral chars => (endNumeral s chars).map fun done => done.tokens.reverse
  | _ => none

end Lexer

def tokens? (cs : List Char) : Option (List Token) :=
  (cs.foldlM Lexer.step ⟨.between, []⟩).bind Lexer.finish

end SheetImport.Json
