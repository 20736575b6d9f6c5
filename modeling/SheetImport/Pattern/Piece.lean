import SheetImport.Pattern.Atom

/-!
# Pieces of a pattern

A piece is a node together with what limits a pattern: the height of its tree, and its `Extent`, the
space that an automaton for it would take.  Repetitions are written out in that automaton, so a
short text can stand for a very large one; the extent is computed without writing it out.
-/

namespace SheetImport.Pattern

/-! ## Extents -/

/-- The space of an automaton, in bytes. -/
structure Extent where
  /-- All its states. -/
  states : Nat
  /-- Whether it can match without taking a character. -/
  nullable : Bool
  /-- The highest number of a group in it. -/
  groups : Nat
  /-- What the names of its groups take, repetitions not counted. -/
  names : Nat

namespace Extent

def state : Nat := 32

/-- One way to go on from a state with several. -/
def branch : Nat := 4

/-- A state with two ways to go on. -/
def fork : Nat := state + 2 * branch

/-- What is kept for a group besides its name. -/
def group : Nat := 16

def ofState (bytes : Nat) (nullable : Bool) : Extent :=
  ⟨bytes, nullable, 0, 0⟩

def empty : Extent :=
  ofState state true

def append (a b : Extent) : Extent :=
  ⟨a.states + b.states, a.nullable && b.nullable, max a.groups b.groups, a.names + b.names⟩

/-- One or the other, both below the same fork. -/
def orElse (a b : Extent) : Extent :=
  ⟨a.states + branch + b.states, a.nullable || b.nullable, max a.groups b.groups,
    a.names + b.names⟩

/-- The states of a repetition.  What has to be there is written out; what may be there is written
out behind forks, unless there is no end to it. -/
def repeatedStates (least : Nat) (most : Option Nat) (body : Extent) : Nat :=
  match most with
  | none =>
      if least ≠ 0 then least * body.states + fork
      else if body.nullable then body.states + 2 * fork + state
      else body.states + fork
  | some most =>
      if most = least then least * body.states
      else
        let prior := if least = 0 then (if most = 1 then 0 else state) else least * body.states
        prior + (most - least) * (body.states + fork) + state

def repeated (least : Nat) (most : Option Nat) (body : Extent) : Extent :=
  { body with
    states := repeatedStates least most body
    nullable := least = 0 || body.nullable }

def grouped (number : Nat) (name : Option String) (body : Extent) : Extent :=
  { body with
    states := 2 * state + body.states
    groups := max number body.groups
    names := body.names + (name.map fun name => name.utf8ByteSize + 4).getD 0 }

/-- The space of all of a pattern, which is itself a group and ends in a state of its own. -/
def total (body : Extent) : Nat :=
  3 * state + body.states + group * (body.groups + 1) + body.names

def limit : Nat := 10485760

end Extent

/-! ## Pieces -/

/-- A part of a pattern, the height of its tree and its extent. -/
structure Piece where
  node : Node
  height : Nat
  extent : Extent

namespace Piece

def empty : Piece :=
  ⟨.empty, 0, .empty⟩

def ofAtom : Atom → Piece
  | .char c => ⟨.set (.single c), 0, .ofState Extent.state false⟩
  | .set chars => ⟨.set chars, 0, .ofState (Extent.state + 8 * chars.ranges.length) false⟩
  | .look condition => ⟨.look condition, 0, .ofState Extent.state true⟩

def tallest (pieces : List Piece) : Nat :=
  pieces.foldl (fun height piece => max height piece.height) 0

def sequence (pieces : List Piece) : Piece :=
  match pieces with
  | [] => empty
  | [piece] => piece
  | first :: rest =>
      { node := rest.foldl (fun node piece => .sequence node piece.node) first.node
        height := tallest pieces + 1
        extent := rest.foldl (fun extent piece => extent.append piece.extent) first.extent }

def choice (pieces : List Piece) : Piece :=
  match pieces with
  | [] => empty
  | [piece] => piece
  | first :: rest =>
      let extent := rest.foldl (fun extent piece => extent.orElse piece.extent) first.extent
      { node := first.node.anyOf (rest.map Piece.node)
        height := tallest pieces + 1
        extent := { extent with states := extent.states + Extent.branch + 2 * Extent.state } }

def repeated (least : Nat) (most : Option Nat) (piece : Piece) : Piece :=
  if least = 0 ∧ most = some 0 then empty
  else if least = 1 ∧ most = some 1 then piece
  else
    { node := Node.repetition least most piece.node
      height := piece.height + 1
      extent := piece.extent.repeated least most }

def grouped (number : Nat) (name : Option String) (piece : Piece) : Piece :=
  { piece with
    height := piece.height + 1
    extent := piece.extent.grouped number name }

end Piece

end SheetImport.Pattern
