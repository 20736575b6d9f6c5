/-!
# The shortest decimal of a binary number

A binary floating-point number stands for every real that rounds to it.  Its shortest decimal is
the point in that interval on the coarsest grid of powers of ten that has one there, and the point
nearer to the number itself where the grid has two.  All comparisons are exact, in natural numbers.
-/

namespace SheetImport.Decimal

/-- What a positive finite number is made of: it equals `mantissa * 2 ^ exponent`. -/
structure Binary where
  mantissa : Nat
  exponent : Int

/-- The number `digits * 10 ^ exponent`. -/
structure Expansion where
  digits : Nat
  exponent : Int

/-- Which of two equally near decimals is taken. -/
inductive Tie
  | toEven
  | up

/-- The bit that every mantissa of full length begins with. -/
def implicitBit : Nat := Nat.pow 2 52

/-- The magnitude that the lower 63 bits of a double stand for. -/
def Binary.ofBits (bits : Nat) : Binary :=
  let fraction : Nat := bits % implicitBit
  let exponent : Nat := bits / implicitBit % 2048
  if exponent = 0 then ⟨fraction, -1074⟩
  else ⟨implicitBit + fraction, (exponent : Int) - 1075⟩

/-- Quarters of a unit from the number down to the lower end of its interval.  Numbers below a power
of two lie half as far apart as those above it. -/
def Binary.quartersBelow (b : Binary) : Nat :=
  if b.mantissa = implicitBit ∧ -1074 < b.exponent then 1 else 2

/-- `n * 10 ^ p`, on the common scale of `tens` and `quarters`. -/
def tens (b : Binary) (p : Int) (n : Nat) : Nat :=
  n * Nat.pow 10 p.toNat * Nat.pow 2 (2 - b.exponent).toNat

/-- `n` quarters of the unit `2 ^ b.exponent`, on the common scale of `tens` and `quarters`. -/
def quarters (b : Binary) (p : Int) (n : Nat) : Nat :=
  n * Nat.pow 2 (b.exponent - 2).toNat * Nat.pow 10 (-p).toNat

/-- Whether `n * 10 ^ p` rounds to the number.  The ends of the interval do if the mantissa is even. -/
def Binary.covers (b : Binary) (p : Int) (n : Nat) : Bool :=
  let low := quarters b p (4 * b.mantissa - b.quartersBelow)
  let high := quarters b p (4 * b.mantissa + 2)
  let point := tens b p n
  if b.mantissa % 2 = 0 then low ≤ point && point ≤ high else low < point && point < high

/-- The point of the grid `10 ^ p` to take, if one of the two around the number rounds to it. -/
def Binary.onGrid? (tie : Tie) (b : Binary) (p : Int) : Option Nat :=
  let value := quarters b p (4 * b.mantissa)
  let below := value / tens b p 1
  let above := below + 1
  let fromBelow := value - tens b p below
  let fromAbove := tens b p above - value
  match b.covers p below && below != 0, b.covers p above with
  | true, true =>
      if fromBelow < fromAbove then some below
      else if fromAbove < fromBelow then some above
      else match tie with
        | .up => some above
        | .toEven => some (if below % 2 = 0 then below else above)
  | true, false => some below
  | false, true => some above
  | false, false => none

/-- Tries ever finer grids. -/
def Binary.search (tie : Tie) (b : Binary) : Nat → Int → Expansion
  | 0, p => ⟨b.mantissa, p⟩
  | tries + 1, p =>
      match b.onGrid? tie p with
      | some digits => ⟨digits, p⟩
      | none => search tie b tries (p - 1)

/-- The shortest decimal of a positive number.  The first grid is coarser than the number, and
seventeen digits always tell two numbers apart. -/
def Binary.shortest (tie : Tie) (b : Binary) : Expansion :=
  let bits : Int := (Nat.log2 b.mantissa : Int) + b.exponent + 1
  b.search tie 24 (bits * 30103 / 100000 + 2)

end SheetImport.Decimal
