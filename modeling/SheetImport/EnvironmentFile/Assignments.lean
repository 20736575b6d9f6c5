import SheetImport.EnvironmentFile.Lines
import SheetImport.Keyed
import SheetImport.Text.LetterTable

/-!
# Assignments of an environment file

An entry is blank or assigns a value to a name.  A value can be quoted, weakly or strongly, and it can
refer to variables; in strong quotes it is taken literally.  The first entry that is neither blank
nor an assignment ends the file.  Assignments are carried out in order, and none changes a variable
that is set already.
-/

namespace SheetImport.EnvironmentFile

/-! ## Values -/

inductive Part
  | char (c : Char)
  | reference (name : String)

/-- What a character of a value is part of. -/
inductive Mode
  /-- Text in weak quotes or in none, perhaps behind a backslash. -/
  | text (quoted escaped : Bool)
  /-- Text in strong quotes. -/
  | strong
  /-- The name behind a dollar sign, last character first. -/
  | name (quoted : Bool) (chars : List Char)
  /-- The name between braces, last character first. -/
  | braced (quoted : Bool) (chars : List Char)
  /-- Blanks behind the value. -/
  | behind
  | comment

/-- A value as far as it is read, last part first. -/
structure Draft where
  mode : Mode
  parts : List Part

/-- The characters that a backslash stands in front of. -/
def escaped? (c : Char) : Option Char :=
  if c = 'n' then some '\n'
  else if c = '\\' ∨ c = '\'' ∨ c = '"' ∨ c = '$' ∨ c = ' ' then some c
  else none

/-- Whether a character belongs to the name behind a dollar sign. -/
def continuesName (c : Char) : Bool :=
  Text.alphabetic.contains c || Text.numeric.contains c

def Draft.push (draft : Draft) (c : Char) : Draft :=
  { draft with parts := .char c :: draft.parts }

/-- Adds a reference to the variable of a name, last character first. -/
def Draft.refer (draft : Draft) (name : List Char) : Draft :=
  { draft with parts := .reference (String.ofList name.reverse) :: draft.parts }

def Draft.to (draft : Draft) (mode : Mode) : Draft :=
  { draft with mode }

def Draft.step (draft : Draft) (c : Char) : Option Draft :=
  match draft.mode with
  | .comment => some draft
  | .behind =>
      if c = ' ' ∨ c = '\t' then some draft
      else if c = '#' then some (draft.to .comment)
      else none
  | .text quoted true => (escaped? c).map fun c => (draft.to (.text quoted false)).push c
  | .strong => some (if c = '\'' then draft.to (.text false false) else draft.push c)
  | .name quoted name =>
      if continuesName c then some (draft.to (.name quoted (c :: name)))
      else if c = '\x7b' ∧ name = [] then some (draft.to (.braced quoted []))
      else
        let done := draft.refer name
        some (if c = '$' then done.to (.name quoted [])
          else (done.to (.text quoted false)).push c)
  | .braced quoted name =>
      some (if c = '\x7d' then (draft.refer name).to (.text quoted false)
        else draft.to (.braced quoted (c :: name)))
  | .text quoted false =>
      some (if c = '$' then draft.to (.name quoted [])
        else if c = '\\' then draft.to (.text quoted true)
        else if c = '"' then draft.to (.text (!quoted) false)
        else if quoted then draft.push c
        else if c = '\'' then draft.to .strong
        else if c = ' ' ∨ c = '\t' then draft.to .behind
        else draft.push c)

/-- The value, if it can end here: all quotes and braces have to be closed. -/
def Draft.finish? (draft : Draft) : Option (List Part) :=
  match draft.mode with
  | .strong => none
  | .braced _ _ => none
  | .text true _ => none
  | .name true _ => none
  | .name false name => some (draft.refer name).parts.reverse
  | _ => some draft.parts.reverse

def value? (cs : List Char) : Option (List Part) :=
  (cs.foldlM Draft.step ⟨.text false false, []⟩).bind Draft.finish?

/-! ## Entries -/

def startsName (c : Char) : Bool :=
  c.isAlpha || c == '_'

def isNameChar (c : Char) : Bool :=
  c.isAlphanum || c == '_' || c == '.'

def dropBlanks (cs : List Char) : List Char :=
  cs.dropWhile Text.isSpace

def name? (cs : List Char) : Option (List Char × List Char) :=
  if cs.head?.any startsName then
    some (cs.takeWhile isNameChar, dropBlanks (cs.dropWhile isNameChar))
  else none

/-- What stands behind an equals sign at the start. -/
def behindEquals? : List Char → Option (List Char)
  | '=' :: rest => some (dropBlanks rest)
  | _ => none

/-- The name and the text of the value of an assignment.  The word in front of a name that is handed
on to other programs is passed over. -/
def parts? (cs : List Char) : Option (List Char × List Char) :=
  match name? cs with
  | none => none
  | some (name, rest) =>
      match behindEquals? rest with
      | some value => some (name, value)
      | none =>
          if name = "export".toList then
            match name? rest with
            | none => none
            | some (name, rest) => (behindEquals? rest).map fun value => (name, value)
          else none

structure Assignment where
  name : String
  value : List Part

inductive Entry
  | blank
  | assignment (assignment : Assignment)
  | malformed

/-- Whether an entry or a value is left out. -/
def isLeftOut (cs : List Char) : Bool :=
  cs.isEmpty || cs.head? == some '#'

def readEntry (cs : List Char) : Entry :=
  let cs := Text.trimChars cs
  if isLeftOut cs then .blank
  else match parts? cs with
    | none => .malformed
    | some (name, value) =>
        if isLeftOut value then .assignment ⟨String.ofList name, []⟩
        else match value? value with
          | none => .malformed
          | some value => .assignment ⟨String.ofList name, value⟩

def assignmentsOf : List (List Char) → List Assignment
  | [] => []
  | entry :: rest =>
      match readEntry entry with
      | .blank => assignmentsOf rest
      | .assignment assignment => assignment :: assignmentsOf rest
      | .malformed => []

def assignments (bytes : ByteArray) : List Assignment :=
  assignmentsOf (entries bytes)

/-! ## Carrying out -/

def Part.name? : Part → Option String
  | .char _ => none
  | .reference name => some name

def Assignment.names (assignment : Assignment) : List String :=
  assignment.name :: assignment.value.filterMap Part.name?

/-- The characters that a part stands for, where some variables are set.  A variable that is not set
stands for none. -/
def Part.chars (set : Keyed String) : Part → List Char
  | .char c => [c]
  | .reference name => ((Keyed.get? set name).getD "").toList

/-- Carries out assignments where some variables are set, and gives all that are set then.  It fails
with a name whose value would have a NUL in it, which no variable can hold. -/
def assign (set : Keyed String) : List Assignment → Except String (Keyed String)
  | [] => .ok set
  | assignment :: rest =>
      if (Keyed.get? set assignment.name).isSome then assign set rest
      else
        let value := assignment.value.flatMap (Part.chars set)
        if value.contains '\x00' then .error assignment.name
        else assign (set ++ [(assignment.name, String.ofList value)]) rest

end SheetImport.EnvironmentFile
