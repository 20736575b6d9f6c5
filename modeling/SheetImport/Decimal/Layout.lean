import SheetImport.Decimal.Shortest

/-!
# How a number's digits are laid out

A layout says where positional notation ends and whether a whole number shows a point.  Everything
else about the text of a number follows from its shortest decimal.
-/

namespace SheetImport.Decimal

/-- The rules by which a finite number is written. -/
structure Layout where
  /-- Which of two equally near decimals is written. -/
  tie : Tie
  /-- The decimal exponents, of the leading digit, that are written positionally; all of them when
  there is no range. -/
  positional : Option (Int × Int)
  /-- Whether a whole number ends in `.0`. -/
  wholePoint : Bool

def digitsOf (n : Nat) : List Char :=
  Nat.toDigits 10 n

/-- Digits with the point after the first one and the exponent behind them. -/
def scientific (digits : List Char) (lead : Int) : List Char :=
  let mantissa := match digits with
    | first :: second :: rest => first :: '.' :: second :: rest
    | short => short
  let sign := if lead < 0 then '-' else '+'
  mantissa ++ 'e' :: sign :: digitsOf lead.natAbs

/-- Digits in their places around the point; `lead` is the exponent of the first digit. -/
def positionalText (wholePoint : Bool) (digits : List Char) (lead : Int) : List Char :=
  if lead < 0 then
    '0' :: '.' :: (List.replicate (lead.natAbs - 1) '0' ++ digits)
  else
    let places := lead.toNat + 1
    if digits.length ≤ places then
      digits ++ List.replicate (places - digits.length) '0' ++
        (if wholePoint then ['.', '0'] else [])
    else digits.take places ++ '.' :: digits.drop places

def Layout.decimalText (layout : Layout) (d : Expansion) : List Char :=
  let digits := digitsOf d.digits
  let lead : Int := d.exponent + digits.length - 1
  match layout.positional with
  | none => positionalText layout.wholePoint digits lead
  | some (lowest, highest) =>
      if lowest ≤ lead ∧ lead ≤ highest then positionalText layout.wholePoint digits lead
      else scientific digits lead

/-- The text of a finite number; the sign of zero is kept. -/
def Layout.text (layout : Layout) (x : Float) : List Char :=
  let bits := x.toBits.toNat
  let b := Binary.ofBits bits
  let magnitude :=
    if b.mantissa = 0 then (if layout.wholePoint then ['0', '.', '0'] else ['0'])
    else layout.decimalText (b.shortest layout.tie)
  if Nat.pow 2 63 ≤ bits then '-' :: magnitude else magnitude

/-- The text by which people read a number: never an exponent, no point in a whole number, and of
two equally near decimals the larger magnitude. -/
def plain : Layout := ⟨.up, none, false⟩

end SheetImport.Decimal
