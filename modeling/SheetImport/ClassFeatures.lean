import SheetImport.Item
import SheetImport.Text.Whitespace

/-!
# The class features summary

A form export names classes only in a free text such as
`level 3: Feature (Fighter 1, Battle Master 3)`.  Three marks are looked for in it: a level mark
`level N:`, a first-level grant `(Name 1` and a level marker `(Name N` or `, Name N`.  Each kind of
mark has a pattern, whose groups are what the mark tells.  The matches are looked for from left to
right, and the text of one mark is never part of the next.
-/

namespace SheetImport.ClassFeatures

/-- The blanks that may stand before a name: those of ASCII. -/
def isBlank (c : Char) : Bool :=
  c == ' ' || ('\t' ≤ c && c ≤ '\r')

/-- What is left behind a fixed beginning. -/
def behind? : List Char → List Char → Option (List Char)
  | [], cs => some cs
  | _ :: _, [] => none
  | first :: rest, c :: cs => if first = c then behind? rest cs else none

/-- The pattern of level marks. -/
def levelPattern : String := "level ([0-9]+):"

/-- The digits of a level mark, if one begins here. -/
def levelMark? (cs : List Char) : Option (List Char) :=
  (behind? ['l', 'e', 'v', 'e', 'l', ' '] cs).bind fun rest =>
    let digits := rest.takeWhile Char.isDigit
    if digits ≠ [] ∧ (rest.dropWhile Char.isDigit).head? = some ':' then some digits else none

def firstLevel? : List Char → Option (List Char)
  | [] => none
  | c :: rest => (levelMark? (c :: rest)).or (firstLevel? rest)

/-- The pattern of first-level grants. -/
def grantPattern : String := "\\(([A-Za-z]+) 1[^0-9]"

/-- The name in a first-level grant, if one begins here, and how many characters the grant takes: it
includes the character behind the level, which is not another digit. -/
def grant? : List Char → Option (List Char × Nat)
  | '(' :: rest =>
      let name := rest.takeWhile Char.isAlpha
      match rest.dropWhile Char.isAlpha with
      | ' ' :: '1' :: next :: _ =>
          if name ≠ [] ∧ !next.isDigit then some (name, name.length + 4) else none
      | _ => none
  | _ => none

/-- The characters that the name in a level marker is made of. -/
def isNameChar (c : Char) : Bool :=
  c.isAlpha || c == ' '

def isWordChar (c : Char) : Bool :=
  c.isAlphanum || c == '_'

/-- The pattern of level markers. -/
def markerPattern : String := "[(,]\\s*([A-Za-z][A-Za-z ]*) (\\d\x7b1,2\x7d)\\b"

/-- The name and the level of a level marker, if one begins here, and how many characters the marker
takes.  The level has one or two digits and is not part of a longer word. -/
def marker? : List Char → Option ((List Char × List Char) × Nat)
  | opening :: rest =>
      if opening = '(' ∨ opening = ',' then
        let blanks := rest.takeWhile isBlank
        let start := rest.dropWhile isBlank
        let run := start.takeWhile isNameChar
        let behind := start.dropWhile isNameChar
        let digits := behind.takeWhile Char.isDigit
        let after := (behind.dropWhile Char.isDigit).head?
        if run.head?.any Char.isAlpha ∧ run.getLast? = some ' ' ∧
            (digits.length = 1 ∨ digits.length = 2) ∧ !after.any isWordChar then
          some ((run.dropLast, digits), 1 + blanks.length + run.length + digits.length)
        else none
      else none
  | [] => none

/-- All marks of one kind, from left to right.  `skipped` characters still belong to the last one. -/
def marks {α : Type} (mark? : List Char → Option (α × Nat)) : Nat → List Char → List α
  | _, [] => []
  | skipped + 1, _ :: rest => marks mark? skipped rest
  | 0, c :: rest =>
      match mark? (c :: rest) with
      | some (mark, length) => mark :: marks mark? (length - 1) rest
      | none => marks mark? 0 rest

/-- Whether a level is one a character can have. -/
def isCharacterLevel (digits : List Char) : Bool :=
  let level := Nat.ofDigitChars 10 digits 0
  1 ≤ level && level ≤ 20

end ClassFeatures

/-- What a class features summary tells. -/
structure ClassFeatures where
  /-- The level in the first level mark. -/
  level : Option String
  /-- The names in first-level grants, each once, in order. -/
  baseClasses : List String
  /-- The names in level markers that are no base classes, each once, in order. -/
  subclasses : List String

namespace ClassFeatures

def grantedNames (cs : List Char) : List String :=
  ((marks grant? 0 cs).map String.ofList).eraseDups

/-- The names in markers of levels that a character can have. -/
def markedNames (cs : List Char) : List String :=
  ((marks marker? 0 cs).filter fun mark => isCharacterLevel mark.2).map fun mark =>
    String.ofList (Text.trimChars mark.1)

def ofText (text : String) : ClassFeatures :=
  let cs := text.toList
  let baseClasses := grantedNames cs
  { level := (firstLevel? cs).map String.ofList
    baseClasses
    subclasses := ((markedNames cs).filter fun name => !baseClasses.contains name).eraseDups }

/-- The one class that a summary describes, if it tells a level and a base class. -/
def item? (features : ClassFeatures) : Option Item :=
  match features.level, features.baseClasses with
  | some level, name :: _ => some ⟨.classLevels, name, some level, features.subclasses.head?⟩
  | _, _ => none

end ClassFeatures

end SheetImport
