import Mathlib
import SheetImport.Proofs.Decimal.Digits
import SheetImport.Proofs.Decimal.Nearest
import SheetImport.Value.Basic

/-!
# The text of a number

A whole number is written with its digits and, if it is negative, a sign before them.  A float is
written by its shortest decimal, positionally and without an exponent, however large or small it is.
What is not finite has a word of its own.  These rules fix the text of every number, and it is the
text that values are shown by.
-/

namespace SheetImport

open Float.Model (UnpackedFloat Format)
open Float.Model.UnpackedFloat

namespace Decimal

/-! ## Whole numbers -/

/-- The text of a whole number. -/
inductive WritesInt (n : ℤ) : List Char → Prop
  | nonneg {digits : List Char} (hsign : 0 ≤ n) (h : Writes n.natAbs digits) : WritesInt n digits
  | neg {digits : List Char} (hsign : n < 0) (h : Writes n.natAbs digits) :
      WritesInt n ('-' :: digits)

/-! ## Positional notation -/

theorem IsShortest.mod_ten_ne_zero {m n : ℕ} {e p : ℤ} (h : IsShortest m e n p) : n % 10 ≠ 0 := by
  intro hzero
  have hsame : decimal (n / 10) (p + 1) = decimal n p := by
    have hn : (n : ℚ) = 10 * (n / 10 : ℕ) := by exact_mod_cast (by omega : n = 10 * (n / 10))
    rw [decimal, decimal, zpow_add_one₀ (by norm_num), hn]
    ring
  exact h.coarsest (n / 10) (p + 1) (lt_add_one p) (hsame ▸ h.readsBack)

theorem decimal_mul_pow {n : ℕ} {p : ℤ} {places : ℕ} (hplaces : (places : ℤ) = -p) :
    decimal n p * 10 ^ places = n := by
  rw [decimal, ← zpow_natCast, hplaces, mul_assoc, ← zpow_add₀ (by norm_num), add_neg_cancel,
    zpow_zero, mul_one]

theorem isDigit_of_mem_replicate {places : ℕ} {c : Char} (h : c ∈ List.replicate places '0') :
    c.isDigit := by
  rw [List.eq_of_mem_replicate h]
  rfl

theorem getLast?_digitsOf {n : ℕ} (hn : n % 10 ≠ 0) : (digitsOf n).getLast? ≠ some '0' := by
  intro hlast
  have hmod := readDigits_mod_ten hlast (by decide)
  rw [readDigits_digitsOf] at hmod
  exact hn hmod

section Places

variable {n : ℕ} {p : ℤ}

theorem ne_zero_of_mod_ten (hn : n % 10 ≠ 0) : n ≠ 0 := by
  rintro rfl
  exact hn rfl

/-- A number below one has zeros between the point and its digits. -/
theorem writesPlain_below_one (hn : n % 10 ≠ 0) {zeros : ℕ}
    (hplaces : (zeros + (digitsOf n).length : ℤ) = -p) :
    WritesPlain (decimal n p) ('0' :: '.' :: (List.replicate zeros '0' ++ digitsOf n)) := by
  have hne : List.replicate zeros '0' ++ digitsOf n ≠ [] := by simp [digitsOf_ne_nil]
  refine WritesPlain.point hne ⟨⟨0, writes_digitsOf 0⟩, ?_, ?_, ?_⟩
  · intro c hc
    exact (List.mem_append.mp hc).elim isDigit_of_mem_replicate isDigit_of_mem_digitsOf
  · rw [List.getLast?_append_of_ne_nil _ (digitsOf_ne_nil n)]
    exact getLast?_digitsOf hn
  · rw [decimal_mul_pow (by rw [List.length_append, List.length_replicate]; exact_mod_cast hplaces),
      readDigits_append, readDigits_append, readDigits_replicate_zero, readDigits_digitsOf]
    simp

/-- A whole number has zeros behind its digits. -/
theorem writesPlain_whole (hn : n % 10 ≠ 0) {zeros : ℕ} (hplaces : (zeros : ℤ) = p) :
    WritesPlain (decimal n p) (digitsOf n ++ List.replicate zeros '0') := by
  have hread : readDigits (digitsOf n ++ List.replicate zeros '0') = n * 10 ^ zeros := by
    rw [readDigits_append, readDigits_replicate_zero, readDigits_digitsOf, List.length_replicate]
    ring
  refine .whole ⟨⟨n * 10 ^ zeros, ?_, ?_, ?_, hread⟩, by simp, by simp, ?_⟩
  · simp [digitsOf_ne_nil]
  · intro c hc
    exact (List.mem_append.mp hc).elim isDigit_of_mem_digitsOf isDigit_of_mem_replicate
  · rw [List.head?_append_of_ne_nil _ (digitsOf_ne_nil n)]
    exact fun hzero => absurd hzero (head?_digitsOf (ne_zero_of_mod_ten hn))
  · rw [List.append_nil, hread, ← hplaces, decimal]
    simp

/-- Any other number has its point among its digits. -/
theorem writesPlain_split (hn : n % 10 ≠ 0) {places : ℕ} (hfirst : 0 < places)
    (hlast : places < (digitsOf n).length) (hplaces : ((digitsOf n).length - places : ℤ) = -p) :
    WritesPlain (decimal n p)
      ((digitsOf n).take places ++ '.' :: (digitsOf n).drop places) := by
  have hdigits : ∀ c ∈ digitsOf n, c.isDigit := fun _ hc => isDigit_of_mem_digitsOf hc
  have hdrop : (digitsOf n).drop places ≠ [] := by
    rwa [ne_eq, List.drop_eq_nil_iff, not_le]
  refine .point hdrop ⟨⟨_, ?_, fun c hc => hdigits c (List.mem_of_mem_take hc), ?_, rfl⟩,
    fun c hc => hdigits c (List.mem_of_mem_drop hc), ?_, ?_⟩
  · simp [digitsOf_ne_nil, hfirst.ne']
  · rw [List.head?_take, if_neg hfirst.ne']
    exact fun hzero => absurd hzero (head?_digitsOf (ne_zero_of_mod_ten hn))
  · rw [List.getLast?_drop, if_neg (by omega)]
    exact getLast?_digitsOf hn
  · rw [decimal_mul_pow (by rw [List.length_drop]; omega), List.take_append_drop,
      readDigits_digitsOf]

/-- Digits in their places around the point are those of the number. -/
theorem writesPlain_positionalText (hn : n % 10 ≠ 0) (p : ℤ) :
    WritesPlain (decimal n p)
      (positionalText false (digitsOf n) (p + (digitsOf n).length - 1)) := by
  have hlength : 0 < (digitsOf n).length := List.length_pos_iff.mpr (digitsOf_ne_nil n)
  rw [positionalText]
  simp only [Bool.false_eq_true, if_false, List.append_nil]
  split_ifs with hsmall hwhole
  · exact writesPlain_below_one hn (by omega)
  · exact writesPlain_whole hn (by omega)
  · exact writesPlain_split hn (by omega) (by omega) (by omega)

end Places

/-! ## Doubles -/

/-- The sign in the highest bit of a double. -/
def signOf (bits : ℕ) : Sign :=
  if 2 ^ 63 ≤ bits then .negative else .positive

section Unpack

variable (bits : BitVec Format.binary64.numBits)

theorem toNat_unpackMantissa : (unpackMantissa bits).toNat = bits.toNat % 2 ^ 52 := by
  simp [unpackMantissa]

theorem toNat_unpackExponent : (unpackExponent bits).toNat = bits.toNat / 2 ^ 52 % 2 ^ 11 := by
  simp [unpackExponent, Nat.shiftRight_eq_div_pow]

theorem ofBitVec_unpackSign : Sign.ofBitVec (unpackSign bits) = signOf bits.toNat := by
  have hbits : bits.toNat < 2 ^ 64 := bits.isLt
  have hsign : (unpackSign bits).toNat = bits.toNat / 2 ^ 63 % 2 := by
    simp [unpackSign, Nat.shiftRight_eq_div_pow]
  have hzero : unpackSign bits = 0#1 ↔ ¬2 ^ 63 ≤ bits.toNat := by
    rw [← BitVec.toNat_inj, hsign, BitVec.toNat_ofNat]
    omega
  rw [Sign.ofBitVec, signOf]
  simp only [hzero]
  split_ifs <;> rfl

theorem finite_congr {sign : Sign} {m m' : ℕ} {e e' : ℤ} (hm : m = m') (he : e = e')
    (hpos : 0 < m) : UnpackedFloat.finite sign m e hpos = .finite sign m' e' (hm ▸ hpos) := by
  subst hm he
  rfl

/-- Only numbers that are not finite have an exponent of nothing but ones. -/
theorem exponent_ne_of_isFinite (h : (UnpackedFloat.unpack Format.binary64 bits).isFinite) :
    unpackExponent bits ≠ -1#_ := by
  intro hones
  simp only [UnpackedFloat.unpack, if_pos hones] at h
  split_ifs at h <;> cases h

/-- The parts of a finite double are those that its digits are computed from. -/
theorem unpack_eq_ofBits (h : (UnpackedFloat.unpack Format.binary64 bits).isFinite) :
    UnpackedFloat.unpack Format.binary64 bits =
      if h : (Binary.ofBits bits.toNat).mantissa = 0 then .zero (signOf bits.toNat)
      else .finite (signOf bits.toNat) (Binary.ofBits bits.toNat).mantissa
        (Binary.ofBits bits.toNat).exponent (Nat.pos_of_ne_zero h) := by
  have hexponent : unpackExponent bits = 0#_ ↔ bits.toNat / 2 ^ 52 % 2 ^ 11 = 0 := by
    rw [← BitVec.toNat_inj, toNat_unpackExponent, BitVec.toNat_ofNat, Nat.zero_mod]
  have hmantissa : unpackMantissa bits = 0#_ ↔ bits.toNat % 2 ^ 52 = 0 := by
    rw [← BitVec.toNat_inj, toNat_unpackMantissa, BitVec.toNat_ofNat, Nat.zero_mod]
  have hbit : implicitBit = 2 ^ 52 := rfl
  simp only [UnpackedFloat.unpack, if_neg (exponent_ne_of_isFinite bits h), ofBitVec_unpackSign,
    hexponent, hmantissa, Binary.ofBits, hbit, show 2048 = 2 ^ 11 by rfl]
  by_cases hsmall : bits.toNat / 2 ^ 52 % 2 ^ 11 = 0
  · simp only [if_pos hsmall]
    by_cases hzero : bits.toNat % 2 ^ 52 = 0
    · rw [dif_pos hzero, dif_pos hzero]
    · rw [dif_neg hzero, dif_neg hzero]
      apply finite_congr
      · exact toNat_unpackMantissa bits
      · rw [toNat_unpackExponent, hsmall]
        rfl
  · have hzero : ¬2 ^ 52 + bits.toNat % 2 ^ 52 = 0 := by omega
    simp only [if_neg hsmall, dif_neg hzero]
    apply finite_congr
    · rw [BitVec.toNat_append, toNat_unpackMantissa]
      change 1 <<< 52 ||| bits.toNat % 2 ^ 52 = _
      rw [← Nat.shiftLeft_add_eq_or_of_lt (Nat.mod_lt _ (by positivity))]
      rfl
    · rw [toNat_unpackExponent]
      rfl

theorem isDouble_ofBits (h : (UnpackedFloat.unpack Format.binary64 bits).isFinite)
    (hpos : (Binary.ofBits bits.toNat).mantissa ≠ 0) : (Binary.ofBits bits.toNat).IsDouble := by
  have hones := exponent_ne_of_isFinite bits h
  rw [ne_eq, ← BitVec.toNat_inj, toNat_unpackExponent, BitVec.neg_one_eq_allOnes,
    BitVec.toNat_allOnes] at hones
  change ¬bits.toNat / 2 ^ 52 % 2 ^ 11 = 2047 at hones
  have hbit : implicitBit = 2 ^ 52 := rfl
  refine ⟨Nat.pos_of_ne_zero hpos, ?_, ?_, ?_⟩ <;> rw [Binary.ofBits, hbit] <;> split_ifs <;>
    dsimp only <;> omega

end Unpack

/-! ## The text of a float -/

def signText : Sign → List Char
  | .positive => []
  | .negative => ['-']

/-- The text of a float, by what the float is. -/
inductive WritesFloat : UnpackedFloat → List Char → Prop
  | notANumber : WritesFloat .notANumber "NaN".toList
  | infinity {sign : Sign} : WritesFloat (.infinity sign) (signText sign ++ "inf".toList)
  | zero {sign : Sign} : WritesFloat (.zero sign) (signText sign ++ "0".toList)
  | finite {sign : Sign} {m n : ℕ} {e p : ℤ} {hpos : 0 < m} {text : List Char}
      (hshortest : IsShortest m e n p) (htext : WritesPlain (decimal n p) text) :
      WritesFloat (.finite sign m e hpos) (signText sign ++ text)

theorem WritesFloat.unique {x : UnpackedFloat} {text text' : List Char} (h : WritesFloat x text)
    (h' : WritesFloat x text') : text = text' := by
  cases h with
  | notANumber => cases h'; rfl
  | infinity => cases h'; rfl
  | zero => cases h'; rfl
  | finite hshortest htext =>
      cases h' with
      | finite hshortest' htext' =>
          obtain ⟨rfl, rfl⟩ := hshortest.unique hshortest'
          rw [htext.unique htext']

theorem plain_text_eq (x : Float) :
    plain.text x = signText (signOf x.toBits.toNat) ++
      if (Binary.ofBits x.toBits.toNat).mantissa = 0 then "0".toList
      else plain.decimalText ((Binary.ofBits x.toBits.toNat).shortest .up) := by
  have hsign : Nat.pow 2 63 = 2 ^ 63 := rfl
  have hpoint : plain.wholePoint = false := rfl
  rw [Layout.text, signOf, hsign]
  simp only [hpoint, Bool.false_eq_true, if_false]
  split_ifs <;> rfl

/-- The digits of a finite float are written as its shortest decimal. -/
theorem writesFloat_plain_text {x : Float} (hfinite : x.toModel.unpack.isFinite) :
    WritesFloat x.toModel.unpack (plain.text x) := by
  have hparts : x.toModel.unpack =
      if h : (Binary.ofBits x.toBits.toNat).mantissa = 0 then .zero (signOf x.toBits.toNat)
      else .finite (signOf x.toBits.toNat) (Binary.ofBits x.toBits.toNat).mantissa
        (Binary.ofBits x.toBits.toNat).exponent (Nat.pos_of_ne_zero h) :=
    unpack_eq_ofBits x.toBits.toBitVec hfinite
  have hdouble : (Binary.ofBits x.toBits.toNat).mantissa ≠ 0 →
      (Binary.ofBits x.toBits.toNat).IsDouble :=
    isDouble_ofBits x.toBits.toBitVec hfinite
  rw [hparts, plain_text_eq]
  split_ifs with hzero
  · exact .zero
  · have hshortest := (hdouble hzero).isShortest
    exact .finite hshortest (writesPlain_positionalText hshortest.mod_ten_ne_zero _)

end Decimal

namespace Value

open Decimal

theorem lt_zero_iff (x : Float) {sign : Sign} (h : x.toModel.unpack = .infinity sign) :
    x < 0.0 ↔ sign = .negative := by
  have hlt : x < 0.0 ↔ x.toModel.unpack.lt (0.0 : Float).toModel.unpack := decide_eq_true_iff
  have hzero : (0.0 : Float).toModel.unpack = .zero .positive := rfl
  rw [hlt, h, hzero]
  cases sign <;> simp [UnpackedFloat.lt, UnpackedFloat.compare]

theorem writesFloat_floatText (x : Float) :
    WritesFloat x.toModel.unpack (floatText x).toList := by
  have hnan : x.isNaN = x.toModel.unpack.isNaN := rfl
  have hinf : x.isInf = x.toModel.unpack.isInf := rfl
  rw [floatText, hnan, hinf]
  cases hparts : x.toModel.unpack with
  | notANumber => exact .notANumber
  | infinity sign =>
      have hlt := lt_zero_iff x hparts
      cases sign with
      | positive =>
          have hwrites : WritesFloat (.infinity .positive) _ := .infinity
          simpa [hlt, signText, UnpackedFloat.isNaN, UnpackedFloat.isInf] using hwrites
      | negative =>
          have hwrites : WritesFloat (.infinity .negative) _ := .infinity
          simpa [hlt, signText, UnpackedFloat.isNaN, UnpackedFloat.isInf] using hwrites
  | zero sign =>
      have hfinite : x.toModel.unpack.isFinite := by rw [hparts]; rfl
      simpa [UnpackedFloat.isNaN, UnpackedFloat.isInf, hparts] using writesFloat_plain_text hfinite
  | finite sign m e hpos =>
      have hfinite : x.toModel.unpack.isFinite := by rw [hparts]; rfl
      simpa [UnpackedFloat.isNaN, UnpackedFloat.isInf, hparts] using writesFloat_plain_text hfinite

/-- The rules for a float fix its text. -/
theorem writesFloat_iff {x : Float} {text : List Char} :
    WritesFloat x.toModel.unpack text ↔ text = (floatText x).toList := by
  constructor
  · exact fun h => h.unique (writesFloat_floatText x)
  · rintro rfl
    exact writesFloat_floatText x

/-- The rules for a whole number fix its text. -/
theorem writesInt_iff {n : Int64} {text : List Char} :
    WritesInt n.toInt text ↔ text = (integerText n).toList := by
  rw [integerText]
  split_ifs with hsign
  · constructor
    · rintro (⟨hnonneg, -⟩ | ⟨-, h⟩)
      · omega
      · rw [writes_iff.mp h]
        simp
    · rintro rfl
      simpa using WritesInt.neg hsign (writes_digitsOf n.toInt.natAbs)
  · constructor
    · rintro (⟨-, h⟩ | ⟨hneg, -⟩)
      · rw [writes_iff.mp h]
        simp
      · omega
    · rintro rfl
      simpa using WritesInt.nonneg (by omega) (writes_digitsOf n.toInt.natAbs)

end Value

end SheetImport
