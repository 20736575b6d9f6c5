import SheetImport.Decimal.Layout

/-!
# Numbers of documents

A document's number is a whole number of at most 64 bits or a finite float.  Reading keeps as many
digits as fit into 64 bits and then scales once by a power of ten; writing gives the fewest digits
that read back.
-/

namespace SheetImport.Json

/-- Whether a whole number fits into 64 bits, with or without sign. -/
abbrev FitsWord (n : Int) : Prop :=
  -9223372036854775808 ≤ n ∧ n < 18446744073709551616

inductive Number
  /-- A whole number of 64 bits. -/
  | whole (n : Int) (fits : FitsWord n)
  /-- Any other number. -/
  | float (x : Float) (finite : x.isFinite = true)

/-- How documents write a float: positional from `0.00001` up to sixteen places before the point, a
point in every number without exponent, and of two equally near decimals the even one. -/
def floatLayout : Decimal.Layout := ⟨.toEven, some (-5, 15), true⟩

def wholeText (n : Int) : List Char :=
  if n < 0 then '-' :: Decimal.digitsOf n.natAbs else Decimal.digitsOf n.natAbs

def Number.text : Number → List Char
  | .whole n _ => wholeText n
  | .float x _ => floatLayout.text x

/-- The number a float stands for, if it is finite. -/
def Number.ofFloat? (x : Float) : Option Number :=
  if h : x.isFinite = true then some (.float x h) else none

/-- The parts of a number's text: sign, digits before and after the point, sign and digits of the
exponent. -/
structure Numeral where
  negative : Bool
  whole : List Char
  fraction : Option (List Char)
  exponent : Option (Bool × List Char)

namespace Numeral

/-- Whether a text of digits has no superfluous leading zero. -/
def plainDigits : List Char → Bool
  | [] => false
  | ['0'] => true
  | '0' :: _ => false
  | _ => true

/-- Splits off the sign and digits of an exponent. -/
def exponentOf? (whole : List Char) (fraction : Option (List Char)) (negative : Bool) :
    List Char → Option Numeral
  | [] => some ⟨negative, whole, fraction, none⟩
  | e :: rest =>
      if e = 'e' ∨ e = 'E' then
        let (down, digits) := match rest with
          | '-' :: digits => (true, digits)
          | '+' :: digits => (false, digits)
          | digits => (false, digits)
        if digits ≠ [] ∧ digits.all Char.isDigit then
          some ⟨negative, whole, fraction, some (down, digits)⟩
        else none
      else none

def unsigned? (negative : Bool) (cs : List Char) : Option Numeral :=
  let whole := cs.takeWhile Char.isDigit
  if plainDigits whole then
    match cs.dropWhile Char.isDigit with
    | '.' :: rest =>
        let fraction := rest.takeWhile Char.isDigit
        if fraction = [] then none
        else exponentOf? whole (some fraction) negative (rest.dropWhile Char.isDigit)
    | rest => exponentOf? whole none negative rest
  else none

/-- The parts of a text that is a number and nothing else. -/
def ofChars? : List Char → Option Numeral
  | '-' :: cs => unsigned? true cs
  | cs => unsigned? false cs

/-- Adds a digit to a significand if the result still fits into 64 bits. -/
def extend? (significand : Nat) (digit : Char) : Option Nat :=
  let next := 10 * significand + (digit.toNat - '0'.toNat)
  if next < UInt64.size then some next else none

/-- The significand that digits before the point lead to, and how many of them no longer fit. -/
def takeWhole (significand : Nat) : List Char → Nat × Nat
  | [] => (significand, 0)
  | digit :: rest =>
      match extend? significand digit with
      | some next => takeWhole next rest
      | none => (significand, rest.length + 1)

/-- The significand that digits after the point lead to, and how many of them fit. -/
def takeFraction (significand : Nat) : List Char → Nat × Nat
  | [] => (significand, 0)
  | digit :: rest =>
      match extend? significand digit with
      | some next =>
          let (total, fitting) := takeFraction next rest
          (total, fitting + 1)
      | none => (significand, 0)

def powerOfTen (n : Nat) : Float :=
  Float.ofNat (Nat.pow 10 n)

/-- Scales a float down by `10 ^ n`, in steps of the largest power of ten. -/
def scaleDown : Nat → Float → Nat → Float
  | 0, x, _ => x
  | steps + 1, x, n =>
      if n ≤ 308 then x / powerOfTen n
      else if x == 0 then x
      else scaleDown steps (x / powerOfTen 308) (n - 308)

/-- Scales a float by a power of ten, unless that takes it out of range. -/
def scale? (x : Float) (exponent : Int) : Option Float :=
  if exponent < 0 then some (scaleDown (exponent.natAbs / 308 + 1) x exponent.natAbs)
  else if exponent ≤ 308 then
    let y := x * powerOfTen exponent.toNat
    if y.isInf then none else some y
  else if x == 0 then some x
  else none

/-- The float that a numeral stands for, if it is in range. -/
def float? (n : Numeral) : Option Float :=
  let (kept, dropped) := takeWhole 0 n.whole
  let (significand, fitting) := takeFraction kept (n.fraction.getD [])
  let power : Int := match n.exponent with
    | none => 0
    | some (down, digits) =>
        let value : Int := Nat.ofDigitChars 10 digits 0
        if down then -value else value
  (scale? significand.toUInt64.toFloat (dropped - fitting + power)).map fun x =>
    if n.negative then -x else x

/-- The whole number that a numeral without point and exponent stands for, if it fits into 64 bits.
Minus zero is no whole number. -/
def whole? (n : Numeral) : Option Int :=
  match n.fraction, n.exponent with
  | none, none =>
      let magnitude := Nat.ofDigitChars 10 n.whole 0
      if n.negative then (if magnitude = 0 then none else some (-magnitude)) else some magnitude
  | _, _ => none

end Numeral

/-- The number that a numeral stands for, if it is in range. -/
def Number.ofNumeral? (n : Numeral) : Option Number :=
  match n.whole? with
  | some k =>
      if h : FitsWord k then some (.whole k h)
      else n.float?.bind Number.ofFloat?
  | none => n.float?.bind Number.ofFloat?

end SheetImport.Json
