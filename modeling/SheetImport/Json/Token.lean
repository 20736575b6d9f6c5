import SheetImport.Json.Basic

/-!
# Tokens of documents

The text of a document is a sequence of tokens.  A string or number token can be well formed and
still stand for nothing: a string with half a surrogate pair, a number out of range.  Such tokens
carry `none`; they matter only where the value is wanted.
-/

namespace SheetImport.Json

/-- A token of a document's text. -/
inductive Token
  | openList
  | closeList
  | openObject
  | closeObject
  | comma
  | colon
  | null
  | boolean (b : Bool)
  | number (n : Option Number)
  | text (s : Option String)

def hexDigit (n : Nat) : Char :=
  Nat.digitChar (n % 16)

/-- How a character stands inside quotes.  Quote, backslash and the control characters are escaped,
those with a letter of their own by that letter. -/
def escape (c : Char) : List Char :=
  if c = '"' then ['\\', '"']
  else if c = '\\' then ['\\', '\\']
  else if c = '\x08' then ['\\', 'b']
  else if c = '\x0c' then ['\\', 'f']
  else if c = '\n' then ['\\', 'n']
  else if c = '\r' then ['\\', 'r']
  else if c = '\t' then ['\\', 't']
  else if c.toNat < 0x20 then ['\\', 'u', '0', '0', hexDigit (c.toNat / 16), hexDigit c.toNat]
  else [c]

def quoted (s : String) : List Char :=
  '"' :: (s.toList.flatMap escape ++ ['"'])

def booleanText (b : Bool) : List Char :=
  if b then ['t', 'r', 'u', 'e'] else ['f', 'a', 'l', 's', 'e']

def nullText : List Char :=
  ['n', 'u', 'l', 'l']

end SheetImport.Json
