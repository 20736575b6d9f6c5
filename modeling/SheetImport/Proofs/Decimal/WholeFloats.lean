import Mathlib

/-!
# Whole numbers as floats

The float of a whole number of 64 bits is always finite.  Rounding can raise the exponent of a
number, but only as far as the bits of its mantissa allow, which is far below the largest exponent of
a double.  So the bounds kept here are generous.
-/

namespace SheetImport.Decimal

open Float.Model (Format UnpackedFloat)
open Float.Model.UnpackedFloat

/-- A float is finite or not a number or infinite, and only one of these. -/
theorem isFinite_iff (x : Float) : x.isFinite ↔ ¬(x.isNaN ∨ x.isInf) := by
  change x.toModel.unpack.isFinite ↔ ¬(x.toModel.unpack.isNaN ∨ x.toModel.unpack.isInf)
  cases x.toModel.unpack <;> simp [UnpackedFloat.isFinite, UnpackedFloat.isNaN, UnpackedFloat.isInf]

/-- Whether a number in parts is finite also when its parts are put into the bits of a double. -/
inductive FitsDouble : UnpackedFloat → Prop
  | zero (sign : Sign) : FitsDouble (.zero sign)
  | finite (sign : Sign) (mantissa : Nat) (exponent : Int) (hpos : 0 < mantissa)
      (hexponent : exponent ≤ 971) : FitsDouble (.finite sign mantissa exponent hpos)

/-- Only an exponent of nothing but ones stands for numbers that are not finite. -/
theorem isFinite_unpack {bits : BitVec Format.binary64.numBits} (h : unpackExponent bits ≠ -1#_) :
    (UnpackedFloat.unpack Format.binary64 bits).isFinite := by
  simp only [UnpackedFloat.unpack, if_neg h]
  split_ifs <;> rfl

theorem FitsDouble.isFinite_unpack_pack {x : UnpackedFloat} (h : FitsDouble x) :
    (UnpackedFloat.unpack Format.binary64 (UnpackedFloat.pack Format.binary64 x)).isFinite := by
  apply isFinite_unpack
  cases h with
  | zero sign => simp [UnpackedFloat.pack, packedZero]
  | finite sign mantissa exponent hpos hexponent =>
      have hbias : Format.binary64.exponentBias = 1023 := rfl
      simp only [UnpackedFloat.pack, hbias]
      split_ifs with hlarge hnormal
      · omega
      · rw [unpackExponent_packComponents, ne_eq, ← BitVec.toNat_inj, BitVec.toNat_ofNat,
          BitVec.neg_one_eq_allOnes, BitVec.toNat_allOnes]
        omega
      · simp

/-! ## Rounding -/

theorem exponent_shiftToExponent (mantissa : Nat) (exponent target : Int) (accuracy : Accuracy) :
    (shiftToExponent mantissa exponent accuracy target).2 = max exponent target := by
  simp only [shiftToExponent]
  omega

theorem mantissa_shiftRight_le (extended : ExtendedMantissa) (places : Nat) :
    (extended >>> places).mantissa ≤ extended.mantissa := by
  change (places.repeat ExtendedMantissa.shiftRightOne extended).mantissa ≤ extended.mantissa
  induction places with
  | zero => exact Nat.le_refl _
  | succ places ih => exact Nat.le_trans (Nat.div_le_self _ 2) ih

theorem roundedMantissa_le (extended : ExtendedMantissa) :
    extended.roundedMantissa ≤ extended.mantissa + 1 := by
  obtain ⟨mantissa, roundBit, stickyBit⟩ := extended
  cases roundBit <;> cases stickyBit <;>
    simp only [ExtendedMantissa.roundedMantissa, ExtendedMantissa.accuracy,
      Accuracy.roundToNearestEven] <;>
    omega

theorem log2_le_of_lt {n places : Nat} (h : n < 2 ^ (places + 1)) : n.log2 ≤ places := by
  by_cases hzero : n = 0
  · rw [hzero, Nat.log2_zero]
    exact Nat.zero_le places
  · exact Nat.le_of_lt_succ ((Nat.log2_lt hzero).mpr h)

theorem targetExponent_eq (mantissa : Nat) (exponent : Int) :
    Format.binary64.targetExponent (Float.Model.totalExponent mantissa exponent) =
      max (mantissa.log2 + 1 + exponent - 53) (-1074) := rfl

/-- A number is shifted to its exponent, rounded, and shifted once more in case that rounding gave
it another place.  Both shifts leave the exponent in reach of the mantissa's bits. -/
theorem fitsDouble_roundWithAccuracy (sign : Sign) {mantissa : Nat} {exponent : Int}
    (hmantissa : mantissa < 2 ^ 127) (hexponent : exponent ≤ 0) :
    FitsDouble (roundWithAccuracy Format.binary64 sign mantissa exponent .exact) := by
  let first := shiftToTargetExponent Format.binary64 mantissa exponent .exact
  have hlog : mantissa.log2 ≤ 126 := log2_le_of_lt hmantissa
  have hfirst : first.2 ≤ 75 := by
    change (shiftToExponent mantissa exponent .exact _).2 ≤ 75
    rw [exponent_shiftToExponent, targetExponent_eq]
    omega
  have hshifted : first.1.mantissa ≤ mantissa := mantissa_shiftRight_le _ _
  have hrounded : first.1.roundedMantissa.log2 ≤ 127 := by
    apply log2_le_of_lt
    have := roundedMantissa_le first.1
    omega
  have hlast : (shiftToTargetExponent Format.binary64 first.1.roundedMantissa first.2 .exact).2 ≤
      971 := by
    rw [shiftToTargetExponent, exponent_shiftToExponent, targetExponent_eq]
    omega
  rw [roundWithAccuracy]
  change FitsDouble (if h : _ then _ else _)
  split_ifs with hzero
  · exact .zero sign
  · exact .finite sign _ _ _ hlast

theorem fitsDouble_ofNat {n : Nat} (hn : n < 2 ^ 64) :
    FitsDouble (UnpackedFloat.ofNat Format.binary64 n) := by
  rw [UnpackedFloat.ofNat, UnpackedFloat.ofInt, UnpackedFloat.normalize]
  split
  case h_1 hnegative =>
    rw [Int.compare_eq_lt] at hnegative
    omega
  case h_2 => exact .zero .positive
  case h_3 =>
    rw [UnpackedFloat.round, Int.toNat_natCast]
    apply fitsDouble_roundWithAccuracy
    -- A small number first gets zeros behind it, never more than fill a mantissa.
    · have hplaces : (0 - Format.binary64.targetExponent (Float.Model.totalExponent n 0)).toNat ≤
          52 := by
        rw [targetExponent_eq]
        omega
      have hscale := Nat.pow_le_pow_right (show 0 < 2 by decide) hplaces
      rw [Nat.shiftLeft_eq]
      calc
        n * 2 ^ _ ≤ n * 2 ^ 52 := Nat.mul_le_mul_left n hscale
        _ < 2 ^ 127 := by omega
    · omega

theorem isFinite_toFloat (n : UInt64) : n.toFloat.isFinite :=
  (fitsDouble_ofNat n.toNat_lt).isFinite_unpack_pack

end SheetImport.Decimal
