import SheetImport.Text.Whitespace

/-!
# Lines of an environment file

An environment file is read line by line.  A quote that is open at the end of a line takes in the
next line, and so does a blank that ends the file: neither is ever completed, and what has been begun
is lost.  The same happens at the first line that is no text.
-/

namespace SheetImport.EnvironmentFile

/-! ## Lines of bytes -/

/-- The lines of some bytes, each with the line feed that ends it. -/
def byteLines : List UInt8 → List (List UInt8)
  | [] => []
  | b :: rest =>
      if b = 10 then [b] :: byteLines rest
      else match byteLines rest with
        | [] => [[b]]
        | line :: lines => (b :: line) :: lines

/-- The lines that are text, up to the first that is not. -/
def decoded : List (List UInt8) → List (List Char)
  | [] => []
  | line :: rest =>
      match String.fromUTF8? ⟨line.toArray⟩ with
      | some s => s.toList :: decoded rest
      | none => []

/-- Text without the mark of its byte order. -/
def withoutMark : List (List Char) → List (List Char)
  | ('\ufeff' :: line) :: rest => line :: rest
  | lines => lines

def textLines (bytes : ByteArray) : List (List Char) :=
  withoutMark (decoded (byteLines bytes.toList))

/-! ## Entries -/

/-- What a character may be part of, as far as the end of an entry goes. -/
inductive Scan
  | plain
  | blank
  | escape
  | weak
  | weakEscape
  | strong
  | strongEscape

def Scan.outside (c : Char) : Scan :=
  if c = '\\' then .escape else if c = '"' then .weak else if c = '\'' then .strong else .plain

/-- Goes over a character.  A number sign behind a blank starts a comment. -/
def Scan.step : Scan → Char → Option Scan
  | .plain, c =>
      some (if Text.isSpace c && c != '\n' && c != '\r' then .blank else .outside c)
  | .blank, c => if c = '#' then none else some (.outside c)
  | .escape, _ => some .plain
  | .weak, c => some (if c = '\\' then .weakEscape else if c = '"' then .plain else .weak)
  | .weakEscape, _ => some .weak
  | .strong, c => some (if c = '\\' then .strongEscape else if c = '\'' then .plain else .strong)
  | .strongEscape, _ => some .strong

/-- Goes over a line: what stands before a comment, and where it ends unless there is one. -/
def Scan.line : Scan → List Char → List Char × Option Scan
  | scan, [] => ([], some scan)
  | scan, c :: rest =>
      match scan.step c with
      | none => ([], none)
      | some next =>
          let (before, stop) := next.line rest
          (c :: before, stop)

def isComment (cs : List Char) : Bool :=
  (cs.dropWhile Text.isSpace).head? == some '#'

/-- The entries that lines make up.  `begun` is what earlier lines belong to the first of them, and
`scan` where these end. -/
def entriesFrom (begun : List Char) (scan : Scan) : List (List Char) → List (List Char)
  | [] => []
  | line :: rest =>
      if isComment (begun ++ line) then entriesFrom [] .plain rest
      else match scan.line line with
        | (before, none) => (begun ++ before) :: entriesFrom [] .plain rest
        | (_, some .plain) => (begun ++ line) :: entriesFrom [] .plain rest
        | (_, some scan) => entriesFrom (begun ++ line) scan rest

def entries (bytes : ByteArray) : List (List Char) :=
  entriesFrom [] .plain (textLines bytes)

end SheetImport.EnvironmentFile
