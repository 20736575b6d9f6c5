import SheetImport.Json.Token

/-!
# Writing documents

The compact form has no blanks at all.  The pretty form gives every item and every member a line of
its own, two blanks deeper than its container; an empty container stays on one line.
-/

namespace SheetImport.Json

def joined (separator : List Char) : List (List Char) → List Char
  | [] => []
  | [last] => last
  | first :: rest => first ++ separator ++ joined separator rest

mutual

def compactText : Json → List Char
  | .null => nullText
  | .boolean b => booleanText b
  | .number n => n.text
  | .text s => quoted s
  | .list items => '[' :: (joined [','] (compactItems items) ++ [']'])
  | .object members => '{' :: (joined [','] (compactMembers members) ++ ['}'])

def compactItems : List Json → List (List Char)
  | [] => []
  | item :: rest => compactText item :: compactItems rest

def compactMembers : List (String × Json) → List (List Char)
  | [] => []
  | (key, value) :: rest => (quoted key ++ ':' :: compactText value) :: compactMembers rest

end

/-- A line break and the blanks of a depth. -/
def lineBreak (depth : Nat) : List Char :=
  '\n' :: List.replicate (2 * depth) ' '

/-- A container around the lines of its parts. -/
def bracketed (opening closing : Char) (depth : Nat) : List (List Char) → List Char
  | [] => [opening, closing]
  | lines =>
      opening :: (lineBreak (depth + 1) ++ joined (',' :: lineBreak (depth + 1)) lines ++
        lineBreak depth ++ [closing])

mutual

/-- The pretty text of a document that starts at a depth. -/
def prettyText (depth : Nat) : Json → List Char
  | .null => nullText
  | .boolean b => booleanText b
  | .number n => n.text
  | .text s => quoted s
  | .list items => bracketed '[' ']' depth (prettyItems (depth + 1) items)
  | .object members => bracketed '{' '}' depth (prettyMembers (depth + 1) members)

def prettyItems (depth : Nat) : List Json → List (List Char)
  | [] => []
  | item :: rest => prettyText depth item :: prettyItems depth rest

def prettyMembers (depth : Nat) : List (String × Json) → List (List Char)
  | [] => []
  | (key, value) :: rest =>
      (quoted key ++ ':' :: ' ' :: prettyText depth value) :: prettyMembers depth rest

end

def compact (j : Json) : String :=
  String.ofList (compactText j)

/-- The document with a line for every item and member. -/
def pretty (j : Json) : String :=
  String.ofList (prettyText 0 j)

end SheetImport.Json
