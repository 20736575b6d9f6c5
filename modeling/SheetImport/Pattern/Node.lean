import SheetImport.Pattern.CharSet

/-!
# Patterns

A pattern is a regular expression with look-arounds of width one.  It is only ever asked whether it
matches anywhere in a text, so groups, greed and captures leave no trace in it.
-/

namespace SheetImport.Pattern

def isWord (c : Char) : Bool :=
  c.isAlphanum || c == '_'

/-- A condition on a place in a text. -/
inductive Look
  | textStart
  | textEnd
  | lineStart
  | lineEnd
  | crlfLineStart
  | crlfLineEnd
  | wordBoundary
  | noWordBoundary
  | wordStart
  | wordEnd
  | wordStartHalf
  | wordEndHalf

/-- Whether the condition holds between two characters; `none` is the end of the text. -/
def Look.holds (look : Look) (before after : Option Char) : Bool :=
  let wordBefore := before.any isWord
  let wordAfter := after.any isWord
  match look with
  | .textStart => before.isNone
  | .textEnd => after.isNone
  | .lineStart => before.all (· == '\n')
  | .lineEnd => after.all (· == '\n')
  | .crlfLineStart =>
      before.all (· == '\n') || (before == some '\r' && after != some '\n')
  | .crlfLineEnd =>
      after.all (· == '\r') || (after == some '\n' && before != some '\r')
  | .wordBoundary => wordBefore != wordAfter
  | .noWordBoundary => wordBefore == wordAfter
  | .wordStart => !wordBefore && wordAfter
  | .wordEnd => wordBefore && !wordAfter
  | .wordStartHalf => !wordBefore
  | .wordEndHalf => !wordAfter

/-- What a pattern is made of. -/
inductive Node
  | empty
  | set (chars : CharSet)
  | look (condition : Look)
  | sequence (first second : Node)
  | either (left right : Node)
  | repeated (least : Nat) (most : Option Nat) (body : Node)

/-- Whether a repetition is one of `?`, `*` and `+`. -/
def isSimpleRepetition (least : Nat) (most : Option Nat) : Bool :=
  least ≤ 1 && (most == none || most == some 1)

/-- A repetition.  Simple repetitions of simple repetitions are one simple repetition. -/
def Node.repetition (least : Nat) (most : Option Nat) (body : Node) : Node :=
  match body with
  | .repeated innerLeast innerMost inner =>
      if isSimpleRepetition least most && isSimpleRepetition innerLeast innerMost then
        .repeated (least * innerLeast)
          (if most == none || innerMost == none then none else some 1) inner
      else .repeated least most body
  | _ => .repeated least most body

/-- One of two patterns.  Of two sets it is a character of either. -/
def Node.orElse : Node → Node → Node
  | .set chars, .set others => .set (chars.union others)
  | left, right => .either left right

def Node.anyOf : Node → List Node → Node
  | node, [] => node
  | node, other :: rest => node.orElse (anyOf other rest)

end SheetImport.Pattern
