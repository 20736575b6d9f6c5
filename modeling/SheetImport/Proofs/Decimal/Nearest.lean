import Mathlib
import SheetImport.Decimal.Shortest

/-!
# The shortest decimal that reads back

A decimal reads back as a double if it lies between the midpoints to the neighbouring doubles.  Among
the decimals that do, the shortest one lies on the coarsest grid of powers of ten, and there as near
to the double as the grid allows.  The search for it compares natural numbers only; here it is
compared with the rationals that these numbers stand for.
-/

namespace SheetImport.Decimal

/-! ## Doubles, decimals and reading back -/

/-- The number `m * 2 ^ e`. -/
def binary (m : ℕ) (e : ℤ) : ℚ := m * 2 ^ e

/-- The number `n * 10 ^ p`. -/
def decimal (n : ℕ) (p : ℤ) : ℚ := n * 10 ^ p

/-- Half the way from a double to the next larger one. -/
def halfAbove (e : ℤ) : ℚ := 2 ^ e / 2

/-- Half the way from a double to the next smaller one.  Below a power of two the doubles lie twice
as close, unless they are the closest ones already. -/
def halfBelow (m : ℕ) (e : ℤ) : ℚ := if m = 2 ^ 52 ∧ -1074 < e then 2 ^ e / 4 else 2 ^ e / 2

/-- Whether a number reads back as the double `m * 2 ^ e`.  Half way between two doubles the one with
an even mantissa is read. -/
def ReadsBack (m : ℕ) (e : ℤ) (q : ℚ) : Prop :=
  if m % 2 = 0 then binary m e - halfBelow m e ≤ q ∧ q ≤ binary m e + halfAbove e
  else binary m e - halfBelow m e < q ∧ q < binary m e + halfAbove e

/-- Whether `n * 10 ^ p` is the shortest decimal that reads back as `m * 2 ^ e`.  No multiple of a
larger power of ten reads back, no multiple of this one is nearer, and of two that are equally near
it is the larger one. -/
structure IsShortest (m : ℕ) (e : ℤ) (n : ℕ) (p : ℤ) : Prop where
  readsBack : ReadsBack m e (decimal n p)
  coarsest : ∀ n' p', p < p' → ¬ReadsBack m e (decimal n' p')
  nearest : ∀ n', ReadsBack m e (decimal n' p) →
    |decimal n p - binary m e| ≤ |decimal n' p - binary m e|
  larger : ∀ n', ReadsBack m e (decimal n' p) →
    |decimal n' p - binary m e| = |decimal n p - binary m e| → n' ≤ n

theorem IsShortest.unique {m n n' : ℕ} {e p p' : ℤ} (h : IsShortest m e n p)
    (h' : IsShortest m e n' p') : n = n' ∧ p = p' := by
  obtain rfl : p = p' := by
    rcases lt_trichotomy p p' with hlt | heq | hgt
    · exact absurd h'.readsBack (h.coarsest n' p' hlt)
    · exact heq
    · exact absurd h.readsBack (h'.coarsest n p hgt)
  have hsame := le_antisymm (h.nearest n' h'.readsBack) (h'.nearest n h.readsBack)
  exact ⟨le_antisymm (h'.larger n h.readsBack hsame) (h.larger n' h'.readsBack hsame.symm), rfl⟩

section ReadsBack

variable {m : ℕ} {e : ℤ} {q q' : ℚ}

theorem halfAbove_pos (e : ℤ) : 0 < halfAbove e := by
  rw [halfAbove]
  positivity

theorem halfBelow_pos (m : ℕ) (e : ℤ) : 0 < halfBelow m e := by
  rw [halfBelow]
  split_ifs <;> positivity

theorem halfBelow_lt_binary (hpos : 0 < m) : halfBelow m e < binary m e := by
  have hunit : (0 : ℚ) < 2 ^ e := by positivity
  have hm : (1 : ℚ) ≤ m := by exact_mod_cast hpos
  rw [halfBelow, binary]
  split_ifs <;> nlinarith

theorem ReadsBack.pos (h : ReadsBack m e q) (hpos : 0 < m) : 0 < q := by
  have hbelow := halfBelow_lt_binary (e := e) hpos
  rw [ReadsBack] at h
  split_ifs at h <;> linarith [h.1]

/-- What lies between a number that reads back and the double reads back. -/
theorem ReadsBack.of_le (h : ReadsBack m e q) (hle : q ≤ q') (hbinary : q' ≤ binary m e) :
    ReadsBack m e q' := by
  have habove := halfAbove_pos e
  rw [ReadsBack] at h ⊢
  split_ifs at h ⊢ <;> constructor <;> linarith [h.1]

theorem ReadsBack.of_ge (h : ReadsBack m e q) (hle : q' ≤ q) (hbinary : binary m e ≤ q') :
    ReadsBack m e q' := by
  have hbelow := halfBelow_pos m e
  rw [ReadsBack] at h ⊢
  split_ifs at h ⊢ <;> constructor <;> linarith [h.2]

theorem readsBack_of_lt (hle : binary m e ≤ q) (hlt : q < binary m e + halfAbove e) :
    ReadsBack m e q := by
  have hbelow := halfBelow_pos m e
  rw [ReadsBack]
  split_ifs <;> constructor <;> linarith

theorem ReadsBack.lt (h : ReadsBack m e q) : q < binary m e + 2 ^ e := by
  have hunit : (0 : ℚ) < 2 ^ e := by positivity
  rw [ReadsBack, halfAbove] at h
  split_ifs at h <;> linarith [h.2]

end ReadsBack

/-! ## Grids -/

theorem decimal_le_decimal {n n' : ℕ} {p : ℤ} : decimal n p ≤ decimal n' p ↔ n ≤ n' := by
  have hgrid : (0 : ℚ) < 10 ^ p := by positivity
  rw [decimal, decimal, mul_le_mul_iff_of_pos_right hgrid, Nat.cast_le]

theorem decimal_succ (n : ℕ) (p : ℤ) : decimal (n + 1) p = decimal n p + 10 ^ p := by
  rw [decimal, decimal]
  push_cast
  ring

/-! ## Comparing natural numbers -/

namespace Binary

/-- What `tens` and `quarters` multiply rationals by. -/
def scale (b : Binary) (p : ℤ) : ℚ :=
  2 ^ (2 - b.exponent).toNat * 10 ^ (-p).toNat

theorem scale_pos (b : Binary) (p : ℤ) : 0 < b.scale p := by
  rw [scale]
  positivity

theorem pow_toNat {a : ℚ} (ha : a ≠ 0) (p : ℤ) : a ^ p.toNat = a ^ p * a ^ (-p).toNat := by
  rw [← zpow_natCast, ← zpow_natCast, ← zpow_add₀ ha]
  congr 1
  omega

theorem cast_tens (b : Binary) (p : ℤ) (n : ℕ) : (tens b p n : ℚ) = decimal n p * b.scale p := by
  have hten := pow_toNat (show (10 : ℚ) ≠ 0 by norm_num) p
  rw [tens, decimal, scale]
  push_cast [Nat.pow_eq]
  rw [hten]
  ring

theorem cast_quarters (b : Binary) (p : ℤ) (n : ℕ) :
    (quarters b p n : ℚ) = n / 4 * 2 ^ b.exponent * b.scale p := by
  have htwo := pow_toNat (show (2 : ℚ) ≠ 0 by norm_num) (b.exponent - 2)
  rw [zpow_sub₀ (by norm_num), neg_sub] at htwo
  rw [quarters, scale]
  push_cast [Nat.pow_eq]
  rw [htwo]
  ring

variable {b : Binary} {p : ℤ}

theorem cast_value (b : Binary) (p : ℤ) :
    (quarters b p (4 * b.mantissa) : ℚ) = binary b.mantissa b.exponent * b.scale p := by
  rw [cast_quarters, binary]
  push_cast
  ring

theorem cast_high (b : Binary) (p : ℤ) :
    (quarters b p (4 * b.mantissa + 2) : ℚ) =
      (binary b.mantissa b.exponent + halfAbove b.exponent) * b.scale p := by
  rw [cast_quarters, binary, halfAbove]
  push_cast
  ring

theorem cast_low (hpos : 0 < b.mantissa) (p : ℤ) :
    (quarters b p (4 * b.mantissa - b.quartersBelow) : ℚ) =
      (binary b.mantissa b.exponent - halfBelow b.mantissa b.exponent) * b.scale p := by
  have hbit : implicitBit = 2 ^ 52 := rfl
  rw [cast_quarters, binary, halfBelow, quartersBelow, hbit]
  split_ifs
  · rw [Nat.cast_sub (by omega)]
    push_cast
    ring
  · rw [Nat.cast_sub (by omega)]
    push_cast
    ring

/-- Whether a multiple of `10 ^ p` reads back as a double. -/
abbrev ReadsOn (b : Binary) (p : ℤ) (n : ℕ) : Prop :=
  ReadsBack b.mantissa b.exponent (decimal n p)

theorem covers_iff (hpos : 0 < b.mantissa) (p : ℤ) (n : ℕ) :
    b.covers p n ↔ b.ReadsOn p n := by
  have hlow : quarters b p (4 * b.mantissa - b.quartersBelow) ≤ tens b p n ↔
      binary b.mantissa b.exponent - halfBelow b.mantissa b.exponent ≤ decimal n p := by
    rw [← Nat.cast_le (α := ℚ), cast_low hpos, cast_tens,
      mul_le_mul_iff_of_pos_right (b.scale_pos p)]
  have hlow' : quarters b p (4 * b.mantissa - b.quartersBelow) < tens b p n ↔
      binary b.mantissa b.exponent - halfBelow b.mantissa b.exponent < decimal n p := by
    rw [← Nat.cast_lt (α := ℚ), cast_low hpos, cast_tens,
      mul_lt_mul_iff_of_pos_right (b.scale_pos p)]
  have hhigh : tens b p n ≤ quarters b p (4 * b.mantissa + 2) ↔
      decimal n p ≤ binary b.mantissa b.exponent + halfAbove b.exponent := by
    rw [← Nat.cast_le (α := ℚ), cast_high, cast_tens, mul_le_mul_iff_of_pos_right (b.scale_pos p)]
  have hhigh' : tens b p n < quarters b p (4 * b.mantissa + 2) ↔
      decimal n p < binary b.mantissa b.exponent + halfAbove b.exponent := by
    rw [← Nat.cast_lt (α := ℚ), cast_high, cast_tens, mul_lt_mul_iff_of_pos_right (b.scale_pos p)]
  rw [covers, ReadsOn, ReadsBack]
  split_ifs
  · rw [Bool.and_eq_true, decide_eq_true_iff, decide_eq_true_iff, hlow, hhigh]
  · rw [Bool.and_eq_true, decide_eq_true_iff, decide_eq_true_iff, hlow', hhigh']

/-! ## One grid -/

/-- The multiple of `10 ^ p` at or below a double. -/
def floorOn (b : Binary) (p : ℤ) : ℕ :=
  quarters b p (4 * b.mantissa) / tens b p 1

theorem tens_eq (b : Binary) (p : ℤ) (n : ℕ) : tens b p n = n * tens b p 1 := by
  rw [tens, tens, Nat.one_mul, Nat.mul_assoc]

theorem tens_one_pos (b : Binary) (p : ℤ) : 0 < tens b p 1 := by
  rw [tens, Nat.one_mul]
  exact Nat.mul_pos (Nat.pow_pos (by decide)) (Nat.pow_pos (by decide))

theorem tens_floorOn_le (b : Binary) (p : ℤ) :
    tens b p (b.floorOn p) ≤ quarters b p (4 * b.mantissa) := by
  rw [tens_eq]
  exact Nat.div_mul_le_self _ _

theorem lt_tens_floorOn (b : Binary) (p : ℤ) :
    quarters b p (4 * b.mantissa) < tens b p (b.floorOn p + 1) := by
  rw [tens_eq, Nat.mul_comm (b.floorOn p + 1)]
  exact Nat.lt_mul_div_succ _ (tens_one_pos b p)

theorem decimal_floorOn_le (b : Binary) (p : ℤ) :
    decimal (b.floorOn p) p ≤ binary b.mantissa b.exponent := by
  have h := b.tens_floorOn_le p
  rwa [← Nat.cast_le (α := ℚ), cast_tens, cast_value,
    mul_le_mul_iff_of_pos_right (b.scale_pos p)] at h

theorem lt_decimal_floorOn (b : Binary) (p : ℤ) :
    binary b.mantissa b.exponent < decimal (b.floorOn p + 1) p := by
  have h := b.lt_tens_floorOn p
  rwa [← Nat.cast_lt (α := ℚ), cast_tens, cast_value,
    mul_lt_mul_iff_of_pos_right (b.scale_pos p)] at h

/-- Of the multiples that are no larger than a double the nearest one reads back if any does. -/
theorem ReadsOn.floorOn {n : ℕ} (h : b.ReadsOn p n) (hle : n ≤ b.floorOn p) :
    b.ReadsOn p (b.floorOn p) :=
  h.of_le (decimal_le_decimal.mpr hle) (b.decimal_floorOn_le p)

theorem ReadsOn.ceilOn {n : ℕ} (h : b.ReadsOn p n) (hlt : b.floorOn p < n) :
    b.ReadsOn p (b.floorOn p + 1) :=
  h.of_ge (decimal_le_decimal.mpr hlt) (b.lt_decimal_floorOn p).le

theorem ReadsOn.ne_zero {n : ℕ} (h : b.ReadsOn p n) (hpos : 0 < b.mantissa) : n ≠ 0 := by
  rintro rfl
  have := h.pos hpos
  simp [decimal] at this

/-- The distances that the search compares are those of the two multiples around a double. -/
theorem fromBelow_lt_iff (b : Binary) (p : ℤ) :
    quarters b p (4 * b.mantissa) - tens b p (b.floorOn p) <
        tens b p (b.floorOn p + 1) - quarters b p (4 * b.mantissa) ↔
      binary b.mantissa b.exponent - decimal (b.floorOn p) p <
        decimal (b.floorOn p + 1) p - binary b.mantissa b.exponent := by
  rw [← Nat.cast_lt (α := ℚ), Nat.cast_sub (b.tens_floorOn_le p),
    Nat.cast_sub (b.lt_tens_floorOn p).le, cast_tens, cast_tens, cast_value, ← sub_mul, ← sub_mul,
    mul_lt_mul_iff_of_pos_right (b.scale_pos p)]

theorem covers_floorOn_iff (hpos : 0 < b.mantissa) (p : ℤ) :
    (b.covers p (b.floorOn p) && b.floorOn p != 0) ↔ b.ReadsOn p (b.floorOn p) := by
  rw [Bool.and_eq_true, covers_iff hpos, bne_iff_ne]
  exact and_iff_left_of_imp fun h => ReadsOn.ne_zero h hpos

/-- What a grid offers is one of the two multiples around a double: one that reads back, and the
nearer one, or the larger one of two equally near, if both do. -/
theorem onGrid?_up (hpos : 0 < b.mantissa) (p : ℤ) :
    (b.onGrid? .up p = none ∧ ¬b.ReadsOn p (b.floorOn p) ∧ ¬b.ReadsOn p (b.floorOn p + 1)) ∨
    (b.onGrid? .up p = some (b.floorOn p) ∧ b.ReadsOn p (b.floorOn p) ∧
      (b.ReadsOn p (b.floorOn p + 1) → binary b.mantissa b.exponent - decimal (b.floorOn p) p <
        decimal (b.floorOn p + 1) p - binary b.mantissa b.exponent)) ∨
    (b.onGrid? .up p = some (b.floorOn p + 1) ∧ b.ReadsOn p (b.floorOn p + 1) ∧
      (b.ReadsOn p (b.floorOn p) → decimal (b.floorOn p + 1) p - binary b.mantissa b.exponent ≤
        binary b.mantissa b.exponent - decimal (b.floorOn p) p)) := by
  have hfloor : quarters b p (4 * b.mantissa) / tens b p 1 = b.floorOn p := rfl
  rw [← covers_floorOn_iff hpos, ← fromBelow_lt_iff, ← not_lt, ← fromBelow_lt_iff,
    ← covers_iff hpos p (b.floorOn p + 1), onGrid?]
  simp only [hfloor]
  cases b.covers p (b.floorOn p) && b.floorOn p != 0 <;> cases b.covers p (b.floorOn p + 1)
  · simp
  · simp
  · simp
  · by_cases hnear : quarters b p (4 * b.mantissa) - tens b p (b.floorOn p) <
        tens b p (b.floorOn p + 1) - quarters b p (4 * b.mantissa)
    · simp [hnear]
    · simp [hnear]

/-- If a grid offers nothing, none of its multiples reads back. -/
theorem not_readsOn_of_onGrid?_eq_none (hpos : 0 < b.mantissa) (h : b.onGrid? .up p = none)
    (n : ℕ) : ¬b.ReadsOn p n := by
  intro hreads
  obtain ⟨-, hfloor, hceil⟩ | ⟨hsome, -⟩ | ⟨hsome, -⟩ := onGrid?_up hpos p
  · rcases Nat.lt_or_ge (b.floorOn p) n with hlt | hle
    · exact hceil (hreads.ceilOn hlt)
    · exact hfloor (hreads.floorOn hle)
  · simp [h] at hsome
  · simp [h] at hsome

/-- What a grid offers reads back, is as near as any of its multiples that do, and is the largest of
those that are equally near. -/
theorem isShortest_of_onGrid?_eq_some (hpos : 0 < b.mantissa) {n : ℕ}
    (h : b.onGrid? .up p = some n) (hcoarsest : ∀ n' p', p < p' → ¬b.ReadsOn p' n') :
    IsShortest b.mantissa b.exponent n p := by
  have hbelow := b.decimal_floorOn_le p
  have habove := b.lt_decimal_floorOn p
  -- Every other multiple is farther away than one of the two around the double.
  have hsplit : ∀ n', b.ReadsOn p n' →
      (n' ≤ b.floorOn p ∧ b.ReadsOn p (b.floorOn p) ∧ decimal n' p ≤ decimal (b.floorOn p) p) ∨
      (b.floorOn p + 1 ≤ n' ∧ b.ReadsOn p (b.floorOn p + 1) ∧
        decimal (b.floorOn p + 1) p ≤ decimal n' p) := by
    intro n' hreads
    rcases Nat.lt_or_ge (b.floorOn p) n' with hlt | hle
    · exact .inr ⟨hlt, hreads.ceilOn hlt, decimal_le_decimal.mpr hlt⟩
    · exact .inl ⟨hle, hreads.floorOn hle, decimal_le_decimal.mpr hle⟩
  obtain ⟨hnone, -⟩ | ⟨hsome, hreads, hnear⟩ | ⟨hsome, hreads, hnear⟩ := onGrid?_up hpos p
  · simp [h] at hnone
  · obtain rfl : n = b.floorOn p := Option.some.inj (h.symm.trans hsome)
    have hdistance := abs_of_nonpos (sub_nonpos.mpr hbelow)
    refine ⟨hreads, hcoarsest, fun n' hn' => ?_, fun n' hn' hsame => ?_⟩
    · obtain ⟨-, -, hle⟩ | ⟨-, hceil, hle⟩ := hsplit n' hn'
      · rw [hdistance, abs_of_nonpos (by linarith)]
        linarith
      · rw [hdistance, abs_of_nonneg (by linarith)]
        linarith [hnear hceil]
    · obtain ⟨hle, -⟩ | ⟨-, hceil, hle⟩ := hsplit n' hn'
      · exact hle
      · rw [hdistance, abs_of_nonneg (by linarith)] at hsame
        linarith [hnear hceil]
  · obtain rfl : n = b.floorOn p + 1 := Option.some.inj (h.symm.trans hsome)
    have hdistance := abs_of_nonneg (sub_nonneg.mpr habove.le)
    refine ⟨hreads, hcoarsest, fun n' hn' => ?_, fun n' hn' hsame => ?_⟩
    · obtain ⟨-, hfloor, hle⟩ | ⟨-, -, hle⟩ := hsplit n' hn'
      · rw [hdistance, abs_of_nonpos (by linarith)]
        linarith [hnear hfloor]
      · rw [hdistance, abs_of_nonneg (by linarith)]
        linarith
    · obtain ⟨hle, -⟩ | ⟨-, -, hle⟩ := hsplit n' hn'
      · omega
      · rw [hdistance, abs_of_nonneg (by linarith)] at hsame
        exact decimal_le_decimal.mp (by linarith)

/-! ## The search -/

/-- If no multiple of a coarse power of ten reads back and one of a finer power does, the search finds
the shortest decimal on its way from the one to the other. -/
theorem isShortest_search (hpos : 0 < b.mantissa) {tries : ℕ} {p : ℤ}
    (hcoarse : ∀ n' p', p < p' → ¬b.ReadsOn p' n')
    (hfine : ∃ n, ∃ places < tries, b.ReadsOn (p - places) n) :
    IsShortest b.mantissa b.exponent (b.search .up tries p).digits
      (b.search .up tries p).exponent := by
  induction tries generalizing p with
  | zero =>
      obtain ⟨n, places, hplaces, -⟩ := hfine
      exact absurd hplaces (Nat.not_lt_zero places)
  | succ tries ih =>
      rw [search]
      cases hgrid : b.onGrid? .up p with
      | some n => exact isShortest_of_onGrid?_eq_some hpos hgrid hcoarse
      | none =>
          have hnone := not_readsOn_of_onGrid?_eq_none hpos hgrid
          apply ih
          · intro n' p' hp'
            rcases eq_or_lt_of_le (show p ≤ p' by omega) with rfl | hlt
            · exact hnone n'
            · exact hcoarse n' p' hlt
          · obtain ⟨n, places, hplaces, hreads⟩ := hfine
            cases places with
            | zero =>
                rw [Nat.cast_zero, sub_zero] at hreads
                exact absurd hreads (hnone n)
            | succ places =>
                refine ⟨n, places, by omega, ?_⟩
                rwa [Nat.cast_succ, ← sub_sub, sub_right_comm] at hreads

end Binary

/-! ## Where the search begins and ends -/

theorem pow_le_pow_of_mul_le {a b i j n k : ℕ} (hpow : a ^ i ≤ b ^ j) (hi : i ≠ 0) (hb : 1 ≤ b)
    (h : j * n ≤ i * k) : a ^ n ≤ b ^ k := by
  apply le_of_pow_le_pow_left₀ hi (Nat.zero_le _)
  calc
    (a ^ n) ^ i = (a ^ i) ^ n := by rw [← pow_mul, ← pow_mul, mul_comm]
    _ ≤ (b ^ j) ^ n := Nat.pow_le_pow_left hpow n
    _ = b ^ (j * n) := (pow_mul b j n).symm
    _ ≤ b ^ (i * k) := Nat.pow_le_pow_right hb h
    _ = (b ^ k) ^ i := by rw [← pow_mul, mul_comm]

/-- Powers of two and of ten, compared by their exponents.  One bound is needed for numbers above one
and the other for those below. -/
theorem two_zpow_le_ten_zpow {n p : ℤ} (hup : 28 * n ≤ 93 * p) (hdown : 59 * n ≤ 196 * p) :
    (2 : ℚ) ^ n ≤ 10 ^ p := by
  rcases le_or_gt 0 p with hp | hp
  · lift p to ℕ using hp
    rcases le_or_gt 0 n with hn | hn
    · lift n to ℕ using hn
      rw [zpow_natCast, zpow_natCast]
      exact_mod_cast pow_le_pow_of_mul_le (show 2 ^ 93 ≤ 10 ^ 28 by norm_num) (by decide)
        (by decide) (show 28 * n ≤ 93 * p by exact_mod_cast hup)
    · calc
        (2 : ℚ) ^ n ≤ 1 := zpow_le_one_of_nonpos₀ (by norm_num) hn.le
        _ ≤ 10 ^ (p : ℤ) := one_le_zpow₀ (by norm_num) (by omega)
  · obtain ⟨k, rfl⟩ := Int.exists_eq_neg_ofNat (show p ≤ 0 by omega)
    obtain ⟨i, rfl⟩ := Int.exists_eq_neg_ofNat (show n ≤ 0 by omega)
    have hle : 10 ^ k ≤ 2 ^ i :=
      pow_le_pow_of_mul_le (show 10 ^ 59 ≤ 2 ^ 196 by norm_num) (by decide) (by decide)
        (show 196 * k ≤ 59 * i by omega)
    rw [zpow_neg, zpow_neg, zpow_natCast, zpow_natCast]
    exact inv_anti₀ (by positivity) (by exact_mod_cast hle)

/-- Whether a mantissa and an exponent are those of a double other than zero. -/
structure Binary.IsDouble (b : Binary) : Prop where
  pos : 0 < b.mantissa
  mantissa_lt : b.mantissa < 2 ^ 53
  exponent_ge : -1074 ≤ b.exponent
  exponent_le : b.exponent ≤ 971

namespace Binary.IsDouble

variable {b : Binary} (h : b.IsDouble)

include h

theorem log2_le : Nat.log2 b.mantissa ≤ 52 :=
  Nat.lt_succ_iff.mp ((Nat.log2_lt h.pos.ne').mpr h.mantissa_lt)

/-- On the first grid of the search, and on every coarser one, all multiples are too large. -/
theorem not_readsOn_coarse {p : ℤ} {n : ℕ}
    (hp : ((Nat.log2 b.mantissa : ℤ) + b.exponent + 1) * 30103 / 100000 + 2 ≤ p) :
    ¬b.ReadsOn p n := by
  intro hreads
  have hlog := h.log2_le
  have hlow := h.exponent_ge
  have hhigh := h.exponent_le
  have hunit : (0 : ℚ) < 2 ^ b.exponent := by positivity
  have hmantissa : (b.mantissa : ℚ) + 1 ≤ 2 ^ (Nat.log2 b.mantissa + 1) := by
    exact_mod_cast Nat.lt_log2_self
  have hbound : binary b.mantissa b.exponent + 2 ^ b.exponent ≤ 10 ^ p := by
    calc
      binary b.mantissa b.exponent + 2 ^ b.exponent = (b.mantissa + 1) * 2 ^ b.exponent := by
        rw [binary]
        ring
      _ ≤ 2 ^ (Nat.log2 b.mantissa + 1) * 2 ^ b.exponent :=
        mul_le_mul_of_nonneg_right hmantissa hunit.le
      _ = 2 ^ ((Nat.log2 b.mantissa : ℤ) + b.exponent + 1) := by
        rw [← zpow_natCast, ← zpow_add₀ (by norm_num)]
        congr 1
        push_cast
        ring
      _ ≤ 10 ^ p := two_zpow_le_ten_zpow (by omega) (by omega)
  have hone : decimal 1 p ≤ decimal n p :=
    decimal_le_decimal.mpr (Nat.one_le_iff_ne_zero.mpr (ReadsOn.ne_zero hreads h.pos))
  have hlt := hreads.lt
  rw [decimal, Nat.cast_one, one_mul] at hone
  linarith

/-- On the last grid of the search the multiples lie closer together than the doubles. -/
theorem readsOn_fine :
    b.ReadsOn (((Nat.log2 b.mantissa : ℤ) + b.exponent + 1) * 30103 / 100000 + 2 - (23 : ℕ))
      (b.floorOn (((Nat.log2 b.mantissa : ℤ) + b.exponent + 1) * 30103 / 100000 + 2 - (23 : ℕ)) +
        1) := by
  have hlog := h.log2_le
  have hlow := h.exponent_ge
  have hhigh := h.exponent_le
  generalize hp : ((Nat.log2 b.mantissa : ℤ) + b.exponent + 1) * 30103 / 100000 + 2 - (23 : ℕ) = p
  have hgrid : (10 : ℚ) ^ p ≤ 2 ^ (b.exponent - 2) := by
    have hle : (2 : ℚ) ^ (2 - b.exponent) ≤ 10 ^ (-p) :=
      two_zpow_le_ten_zpow (by omega) (by omega)
    rw [← neg_sub, zpow_neg, zpow_neg] at hle
    exact (inv_le_inv₀ (by positivity) (by positivity)).mp hle
  have hunit : (0 : ℚ) < 2 ^ b.exponent := by positivity
  have hfloor := b.decimal_floorOn_le p
  rw [zpow_sub₀ (by norm_num)] at hgrid
  apply readsBack_of_lt (b.lt_decimal_floorOn p).le
  rw [decimal_succ, halfAbove]
  norm_num at hgrid
  linarith

/-- The shortest decimal of a double is found. -/
theorem isShortest : IsShortest b.mantissa b.exponent (b.shortest .up).digits
    (b.shortest .up).exponent :=
  isShortest_search h.pos (fun _ _ hp => h.not_readsOn_coarse hp.le)
    ⟨_, 23, by decide, h.readsOn_fine⟩

end Binary.IsDouble

end SheetImport.Decimal
