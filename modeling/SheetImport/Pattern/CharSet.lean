/-!
# Sets of characters

A set of characters is written as ranges.  `CharSet.ofRanges` puts ranges in order and joins those
that overlap or touch, which never changes what is in the set.  It does matter where case is set
aside: a range with small letters in it then also stands for the capitals of these, and only a range
without any stands for the small letters of its capitals.
-/

namespace SheetImport.Pattern

structure CharRange where
  first : Char
  last : Char

def CharRange.contains (range : CharRange) (c : Char) : Bool :=
  range.first ≤ c && c ≤ range.last

structure CharSet where
  ranges : List CharRange

namespace CharSet

def contains (set : CharSet) (c : Char) : Bool :=
  set.ranges.any (·.contains c)

def single (c : Char) : CharSet :=
  ⟨[⟨c, c⟩]⟩

def union (set other : CharSet) : CharSet :=
  ⟨set.ranges ++ other.ranges⟩

def lastChar : Char := Char.ofNat 0x10ffff

def all : CharSet :=
  ⟨[⟨'\x00', lastChar⟩]⟩

/-- The character after another one; surrogates are no characters. -/
def next? (c : Char) : Option Char :=
  if c = lastChar then none
  else if c = '\ud7ff' then some '\ue000'
  else some (Char.ofNat (c.toNat + 1))

/-- The character before another one, which must not be the first of all. -/
def previous (c : Char) : Char :=
  if c = '\ue000' then '\ud7ff' else Char.ofNat (c.toNat - 1)

def earlier (c d : Char) : Char :=
  if c ≤ d then c else d

def later (c d : Char) : Char :=
  if c ≤ d then d else c

/-- Puts a range in front of the first that does not begin before it. -/
def place (range : CharRange) : List CharRange → List CharRange
  | [] => [range]
  | other :: rest =>
      if range.first ≤ other.first then range :: other :: rest else other :: place range rest

/-- Joins a range with those behind it that overlap or touch it; they are in order. -/
def join (range : CharRange) : List CharRange → List CharRange
  | [] => [range]
  | other :: rest =>
      if other.first.toNat ≤ range.last.toNat + 1 then
        join ⟨range.first, later range.last other.last⟩ rest
      else range :: join other rest

/-- The set of some ranges, in order and with a gap between any two. -/
def ofRanges (ranges : List CharRange) : CharSet :=
  match ranges.foldr place [] with
  | [] => ⟨[]⟩
  | range :: rest => ⟨join range rest⟩

/-- The ranges behind a character and between ranges, which are in order.  Only surrogates lie between
their two neighbours, so the range between these is there too and has no characters. -/
def gapsBehind (last : Char) : List CharRange → List CharRange
  | [] => ((next? last).map fun first => ⟨first, lastChar⟩).toList
  | range :: rest =>
      ((next? last).map fun first => ⟨first, previous range.first⟩).toList ++
        gapsBehind range.last rest

/-- The ranges that remain, where others are in order and with a gap between any two. -/
def gaps : List CharRange → List CharRange
  | [] => all.ranges
  | range :: rest =>
      let before := if range.first = '\x00' then [] else [⟨'\x00', previous range.first⟩]
      before ++ gapsBehind range.last rest

/-- The characters that are not in the set. -/
def complement (set : CharSet) : CharSet :=
  ⟨gaps set.ranges⟩

/-- The letters that a range also stands for where case is set aside. -/
def otherCase? (range : CharRange) : Option CharRange :=
  if range.first ≤ 'z' && 'a' ≤ range.last then
    some ⟨(later range.first 'a').toUpper, (earlier range.last 'z').toUpper⟩
  else if range.first ≤ 'Z' && 'A' ≤ range.last then
    some ⟨(later range.first 'A').toLower, (earlier range.last 'Z').toLower⟩
  else none

def caseless (set : CharSet) : CharSet :=
  ofRanges (set.ranges ++ set.ranges.filterMap otherCase?)

/-- A letter of A to Z in both its cases. -/
def bothCases (c : Char) : CharSet :=
  ⟨[⟨c.toUpper, c.toUpper⟩, ⟨c.toLower, c.toLower⟩]⟩

end CharSet

end SheetImport.Pattern
