import SheetImport.Json.Lexer

/-!
# Raw documents

A raw document is well-formed text whose strings and numbers are not looked at yet: a name can occur
twice in an object, containers nest to any depth, and a string or number can stand for nothing.  The
tokens are read one at a time against the containers that are open.
-/

namespace SheetImport.Json

/-- A well-formed document, before its parts are looked at. -/
inductive Raw
  | null
  | boolean (b : Bool)
  | number (n : Option Number)
  | text (s : Option String)
  | list (items : List Raw)
  | object (members : List (Option String × Raw))

namespace Raw

/-- A container that is open around the place that is read; what it already holds, last first. -/
inductive Frame
  | list (items : List Raw)
  | member (members : List (Option String × Raw)) (key : Option String)

inductive Expectation
  /-- A value, or directly behind the bracket of a list also its end. -/
  | value (mayClose : Bool)
  /-- A name, or directly behind the brace of an object also its end. -/
  | key (members : List (Option String × Raw)) (mayClose : Bool)
  /-- The colon behind a name. -/
  | colon (members : List (Option String × Raw)) (key : Option String)
  /-- The end of the container, another part of it, or the end of the text. -/
  | after (value : Raw)

/-- A place in a text: the containers around it, innermost first, and what may come there. -/
structure Place where
  frames : List Frame
  expected : Expectation

def startValue (frames : List Frame) (mayClose : Bool) : Token → Option Place
  | .openList => some ⟨.list [] :: frames, .value true⟩
  | .openObject => some ⟨frames, .key [] true⟩
  | .null => some ⟨frames, .after .null⟩
  | .boolean b => some ⟨frames, .after (.boolean b)⟩
  | .number n => some ⟨frames, .after (.number n)⟩
  | .text s => some ⟨frames, .after (.text s)⟩
  | .closeList =>
      match mayClose, frames with
      | true, .list items :: outer => some ⟨outer, .after (.list items.reverse)⟩
      | _, _ => none
  | _ => none

def step (place : Place) (token : Token) : Option Place :=
  match place.expected, token with
  | .value mayClose, token => startValue place.frames mayClose token
  | .key members _, .text s => some ⟨place.frames, .colon members s⟩
  | .key members true, .closeObject => some ⟨place.frames, .after (.object members.reverse)⟩
  | .colon members key, .colon => some ⟨.member members key :: place.frames, .value false⟩
  | .after value, token =>
      match place.frames, token with
      | .list items :: outer, .comma => some ⟨.list (value :: items) :: outer, .value false⟩
      | .list items :: outer, .closeList => some ⟨outer, .after (.list (value :: items).reverse)⟩
      | .member members key :: outer, .comma => some ⟨outer, .key ((key, value) :: members) false⟩
      | .member members key :: outer, .closeObject =>
          some ⟨outer, .after (.object ((key, value) :: members).reverse)⟩
      | _, _ => none
  | _, _ => none

/-- The document, if the text can end here. -/
def finish (place : Place) : Option Raw :=
  match place.frames, place.expected with
  | [], .after value => some value
  | _, _ => none

def ofTokens? (tokens : List Token) : Option Raw :=
  (tokens.foldlM step ⟨[], .value false⟩).bind finish

def ofText? (s : String) : Option Raw :=
  (tokens? s.toList).bind ofTokens?

end Raw

end SheetImport.Json
