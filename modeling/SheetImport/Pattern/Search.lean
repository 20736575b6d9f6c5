import SheetImport.Pattern.Ground

/-!
# Searching a text for a pattern

A pattern turns the set of places where a match may begin into the set of places where it may end, so
all ways of matching advance together and none is tried twice.  The pattern is laid over the text
first: what it asks of a character or of a place is looked up once for all places, and only if there
is a place to go on from.
-/

namespace SheetImport.Pattern

/-! ## Patterns laid over a text -/

/-- A pattern in which sets of characters and conditions have become sets of places. -/
inductive Course
  | empty
  /-- One of the characters behind some places. -/
  | step (before : Thunk Nat)
  /-- Any number of the characters behind some places. -/
  | run (before : Thunk Nat)
  /-- Being at one of some places. -/
  | look (here : Thunk Nat)
  | sequence (first second : Course)
  | either (left right : Course)
  | repeated (least : Nat) (most : Option Nat) (body : Course)

/-- A repetition.  One of single characters without an end is a run. -/
def Course.repetition (least : Nat) (most : Option Nat) (body : Course) : Course :=
  match body, most with
  | .step before, none => .sequence (.repeated least (some least) body) (.run before)
  | _, _ => .repeated least most body

/-- Lays a pattern over a text. -/
def Node.over (ground : Ground) : Node → Course
  | .empty => .empty
  | .set chars => .step (Thunk.mk fun _ => ground.before chars)
  | .look condition => .look (Thunk.mk fun _ => ground.holding condition)
  | .sequence first second => .sequence (first.over ground) (second.over ground)
  | .either left right => .either (left.over ground) (right.over ground)
  | .repeated least most body => .repetition least most (body.over ground)

/-! ## Advancing -/

/-- Applies a step a number of times; where the set no longer changes, no more times are needed. -/
def iterate (step : Nat → Nat) : Nat → Nat → Nat
  | 0, places => places
  | times + 1, places =>
      let next := step places
      if next = places then places else iterate step times next

/-- Adds what at most so many steps reach.  Only newly reached places are taken further. -/
def reach (step : Nat → Nat) : Nat → Nat → Nat → Nat
  | 0, reached, _ => reached
  | times + 1, reached, frontier =>
      let next := step frontier
      let new := next ^^^ (next &&& reached)
      if new = 0 then reached else reach step times (reached ||| new) new

/-- The places where a match that begins at one of the given places may end, in a text with so many
places. -/
def Course.advance (count : Nat) : Course → Nat → Nat
  | .empty, places => places
  | .step before, places => if places = 0 then 0 else Places.step before.get places
  | .run before, places => if places = 0 then 0 else Places.run before.get places
  | .look here, places => if places = 0 then 0 else places &&& here.get
  | .sequence first second, places => second.advance count (first.advance count places)
  | .either left right, places => left.advance count places ||| right.advance count places
  | .repeated least most body, places =>
      if places = 0 then 0
      else
        let started := iterate (body.advance count) least places
        let further := match most with
          | none => count
          | some most => most - least
        reach (body.advance count) further started started

def allPlaces (cs : List Char) : Nat :=
  Nat.pow 2 (cs.length + 1) - 1

def Node.matchesWithin (node : Node) (s : String) : Bool :=
  let cs := s.toList
  (node.over (.ofChars cs)).advance (cs.length + 1) (allPlaces cs) != 0

end SheetImport.Pattern
