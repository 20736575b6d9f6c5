import Mathlib
import SheetImport.Proofs.Json.Numerals

/-!
# Decimal digits

A whole number is written with the digits of decimal notation and without superfluous zeros, and its
digits read back as the number.  There is only one way to write it so.  The same holds for a number
with digits behind a point, if the last of them is no zero.
-/

namespace SheetImport.Decimal

/-- The number that some digits stand for. -/
def readDigits (digits : List Char) : ℕ :=
  Nat.ofDigitChars 10 digits 0

@[simp] theorem readDigits_digitsOf (n : ℕ) : readDigits (digitsOf n) = n :=
  Nat.ofDigitChars_toDigits (by decide) (by decide)

theorem readDigits_append (left right : List Char) :
    readDigits (left ++ right) = 10 ^ right.length * readDigits left + readDigits right := by
  rw [readDigits, Nat.ofDigitChars_append, Nat.ofDigitChars_eq_ofDigitChars_zero]
  rfl

theorem readDigits_replicate_zero (places : ℕ) : readDigits (List.replicate places '0') = 0 := by
  rw [readDigits, Nat.ofDigitChars_replicate_zero, Nat.mul_zero]

theorem readDigits_cons (c : Char) (digits : List Char) :
    readDigits (c :: digits) = 10 ^ digits.length * readDigits [c] + readDigits digits :=
  readDigits_append [c] digits

theorem readDigits_singleton (c : Char) : readDigits [c] = c.toNat - 48 := by
  simp [readDigits, Nat.ofDigitChars_cons, Nat.ofDigitChars_nil]

/-- The code points of digits. -/
theorem toNat_of_isDigit {c : Char} (h : c.isDigit) : 48 ≤ c.toNat ∧ c.toNat ≤ 57 := by
  simpa [Char.isDigit, UInt32.le_iff_toNat_le] using h

theorem readDigits_lt {digits : List Char} (h : ∀ c ∈ digits, c.isDigit) :
    readDigits digits < 10 ^ digits.length := by
  induction digits with
  | nil => simp [readDigits, Nat.ofDigitChars_nil]
  | cons c rest ih =>
      obtain ⟨hlow, hhigh⟩ := toNat_of_isDigit (h c List.mem_cons_self)
      have hrest := ih fun d hd => h d (List.mem_cons_of_mem c hd)
      rw [readDigits_cons, readDigits_singleton, List.length_cons, pow_succ]
      nlinarith [show c.toNat - 48 ≤ 9 by omega]

/-- As many digits at the end of two numbers are the same number if the numbers are, and so is what
stands before them. -/
theorem readDigits_append_inj {left left' right right' : List Char}
    (hright : ∀ c ∈ right, c.isDigit) (hright' : ∀ c ∈ right', c.isDigit)
    (hlength : right.length = right'.length)
    (h : readDigits (left ++ right) = readDigits (left' ++ right')) :
    readDigits left = readDigits left' ∧ readDigits right = readDigits right' := by
  have hlt := readDigits_lt hright
  have hlt' := readDigits_lt hright'
  have hpos : 0 < 10 ^ right'.length := by positivity
  rw [readDigits_append, readDigits_append, hlength] at h
  rw [hlength] at hlt
  have hfirst : readDigits left = readDigits left' := by
    have := congrArg (· / 10 ^ right'.length) h
    simpa [Nat.mul_add_div hpos, Nat.div_eq_of_lt hlt, Nat.div_eq_of_lt hlt'] using this
  rw [hfirst] at h
  exact ⟨hfirst, Nat.add_left_cancel h⟩

/-- As many digits stand for the same number only if they are the same. -/
theorem eq_of_readDigits_eq {left right : List Char} (hleft : ∀ c ∈ left, c.isDigit)
    (hright : ∀ c ∈ right, c.isDigit) (hlength : left.length = right.length)
    (hread : readDigits left = readDigits right) : left = right := by
  induction left generalizing right with
  | nil => exact (List.length_eq_zero_iff.mp hlength.symm).symm
  | cons c rest ih =>
      cases right with
      | nil => cases hlength
      | cons d more =>
          obtain ⟨hclow, -⟩ := toNat_of_isDigit (hleft c List.mem_cons_self)
          obtain ⟨hdlow, -⟩ := toNat_of_isDigit (hright d List.mem_cons_self)
          have hrest : ∀ x ∈ rest, x.isDigit := fun x hx => hleft x (List.mem_cons_of_mem c hx)
          have hmore : ∀ x ∈ more, x.isDigit := fun x hx => hright x (List.mem_cons_of_mem d hx)
          have hlength' : rest.length = more.length := by simpa using hlength
          have hsplit : readDigits ([c] ++ rest) = readDigits ([d] ++ more) := hread
          obtain ⟨hfirst, hlast⟩ := readDigits_append_inj hrest hmore hlength' hsplit
          rw [readDigits_singleton, readDigits_singleton] at hfirst
          have hchar : c = d := Char.toNat_inj.mp (by omega)
          rw [hchar, ih hrest hmore hlength' hlast]

/-! ## Whole numbers -/

/-- The digits of a whole number, written without superfluous zeros. -/
structure Writes (n : ℕ) (digits : List Char) : Prop where
  nonempty : digits ≠ []
  areDigits : ∀ c ∈ digits, c.isDigit
  short : digits.head? = some '0' → digits = ['0']
  value : readDigits digits = n

theorem digitChar_of_isDigit {c : Char} (h : c.isDigit) : Nat.digitChar (c.toNat - 48) = c := by
  obtain ⟨hlow, hhigh⟩ := toNat_of_isDigit h
  apply Char.toNat_inj.mp
  rw [Nat.toNat_digitChar_of_lt_ten (by omega)]
  omega

theorem digitsOf_of_isDigit {c : Char} (h : c.isDigit) : digitsOf (c.toNat - 48) = [c] := by
  obtain ⟨-, hhigh⟩ := toNat_of_isDigit h
  rw [digitsOf, Nat.toDigits_of_lt_base (by omega), digitChar_of_isDigit h]

/-- Digits behind those of a positive number are the digits of a longer number. -/
theorem digitsOf_append {acc : ℕ} (hpos : 0 < acc) {digits : List Char}
    (hdigits : ∀ c ∈ digits, c.isDigit) :
    digitsOf acc ++ digits = digitsOf (Nat.ofDigitChars 10 digits acc) := by
  induction digits generalizing acc with
  | nil => simp [Nat.ofDigitChars_nil]
  | cons c rest ih =>
      obtain ⟨hlow, hhigh⟩ := toNat_of_isDigit (hdigits c List.mem_cons_self)
      have hnext : digitsOf acc ++ [c] = digitsOf (10 * acc + (c.toNat - 48)) := by
        rw [← digitsOf_of_isDigit (hdigits c List.mem_cons_self)]
        exact Nat.toDigits_append_toDigits (by decide) hpos (by omega)
      rw [Nat.ofDigitChars_cons, List.append_cons, hnext]
      exact ih (by omega) fun d hd => hdigits d (List.mem_cons_of_mem c hd)

theorem writes_digitsOf (n : ℕ) : Writes n (digitsOf n) where
  nonempty := digitsOf_ne_nil n
  areDigits _ hc := isDigit_of_mem_digitsOf hc
  short := by
    intro hzero
    have hn : n = 0 := by
      by_contra hpos
      exact head?_digitsOf hpos hzero
    rw [hn]
    rfl
  value := readDigits_digitsOf n

theorem writes_iff {n : ℕ} {digits : List Char} : Writes n digits ↔ digits = digitsOf n := by
  constructor
  · rintro ⟨hne, hdigits, hshort, rfl⟩
    cases digits with
    | nil => exact absurd rfl hne
    | cons c rest =>
        by_cases hzero : c = '0'
        · subst hzero
          rw [hshort rfl]
          rfl
        · obtain ⟨hlow, hhigh⟩ := toNat_of_isDigit (hdigits c List.mem_cons_self)
          have hpos : 0 < c.toNat - 48 := by
            have : c.toNat ≠ 48 := fun h => hzero (Char.toNat_inj.mp h)
            omega
          have hfirst := digitsOf_of_isDigit (hdigits c List.mem_cons_self)
          have happend :=
            digitsOf_append hpos fun d hd => hdigits d (List.mem_cons_of_mem c hd)
          have hread : readDigits (c :: rest) = Nat.ofDigitChars 10 rest (c.toNat - 48) := by
            simp [readDigits, Nat.ofDigitChars_cons]
          rw [hread, ← happend, hfirst, List.singleton_append]
  · rintro rfl
    exact writes_digitsOf n

/-! ## Numbers with digits behind a point -/

/-- The digits of a number on both sides of its point, without superfluous zeros at either end. -/
structure WritesAround (q : ℚ) (whole fraction : List Char) : Prop where
  isWhole : ∃ n, Writes n whole
  areDigits : ∀ c ∈ fraction, c.isDigit
  short : fraction.getLast? ≠ some '0'
  value : q * 10 ^ fraction.length = readDigits (whole ++ fraction)

/-- The text of a number in positional notation.  A whole number has no point. -/
inductive WritesPlain (q : ℚ) : List Char → Prop
  | whole {digits : List Char} (h : WritesAround q digits []) : WritesPlain q digits
  | point {digits fraction : List Char} (hne : fraction ≠ [])
      (h : WritesAround q digits fraction) : WritesPlain q (digits ++ '.' :: fraction)

theorem readDigits_mod_ten {digits : List Char} {c : Char} (h : digits.getLast? = some c)
    (hdigit : c.isDigit) : readDigits digits % 10 = c.toNat - 48 := by
  obtain ⟨before, rfl⟩ := List.getLast?_eq_some_iff.mp h
  obtain ⟨hlow, hhigh⟩ := toNat_of_isDigit hdigit
  rw [readDigits_append, readDigits_singleton, List.length_singleton]
  omega

/-- A number that ends in another digit than zero behind its point has no fewer digits there. -/
theorem WritesAround.length_le {q : ℚ} {whole fraction whole' fraction' : List Char}
    (h : WritesAround q whole fraction) (h' : WritesAround q whole' fraction') :
    fraction'.length ≤ fraction.length := by
  by_contra hlonger
  obtain ⟨places, hplaces⟩ : ∃ places, fraction'.length = fraction.length + (places + 1) :=
    ⟨fraction'.length - fraction.length - 1, by omega⟩
  have hshift : readDigits (whole' ++ fraction') =
      readDigits (whole ++ fraction) * 10 ^ (places + 1) := by
    have hvalue := h'.value
    rw [hplaces, pow_add, ← mul_assoc, h.value] at hvalue
    exact_mod_cast hvalue.symm
  have hne : fraction' ≠ [] := by
    rintro rfl
    simp at hplaces
  obtain ⟨c, hlast⟩ : ∃ c, fraction'.getLast? = some c := ⟨_, List.getLast?_eq_some_getLast hne⟩
  have hdigit := h'.areDigits c (List.mem_of_getLast? hlast)
  have hzero : c = '0' := by
    have hend : (whole' ++ fraction').getLast? = some c := by
      rw [List.getLast?_append, hlast]
      rfl
    have hmod := readDigits_mod_ten hend hdigit
    obtain ⟨hlow, hhigh⟩ := toNat_of_isDigit hdigit
    rw [hshift, pow_succ, ← mul_assoc, Nat.mul_mod_left] at hmod
    apply Char.toNat_inj.mp
    change c.toNat = 48
    omega
  exact h'.short (hlast.trans (congrArg some hzero))

theorem WritesAround.unique {q : ℚ} {whole fraction whole' fraction' : List Char}
    (h : WritesAround q whole fraction) (h' : WritesAround q whole' fraction') :
    whole = whole' ∧ fraction = fraction' := by
  have hlength : fraction.length = fraction'.length :=
    Nat.le_antisymm (h'.length_le h) (h.length_le h')
  have hread : readDigits (whole ++ fraction) = readDigits (whole' ++ fraction') := by
    have hvalue := h.value
    rw [hlength, h'.value] at hvalue
    exact_mod_cast hvalue.symm
  obtain ⟨hwhole, hfraction⟩ := readDigits_append_inj h.areDigits h'.areDigits hlength hread
  refine ⟨?_, eq_of_readDigits_eq h.areDigits h'.areDigits hlength hfraction⟩
  obtain ⟨n, hn⟩ := h.isWhole
  obtain ⟨n', hn'⟩ := h'.isWhole
  rw [writes_iff.mp hn, writes_iff.mp hn', ← hn.value, hwhole, hn'.value]

/-- There is only one way to write a number positionally. -/
theorem WritesPlain.unique {q : ℚ} {text text' : List Char} (h : WritesPlain q text)
    (h' : WritesPlain q text') : text = text' := by
  cases h with
  | whole h =>
      cases h' with
      | whole h' => exact (h.unique h').1
      | point hne h' => exact absurd (h.unique h').2.symm hne
  | point hne h =>
      cases h' with
      | whole h' => exact absurd (h.unique h').2 hne
      | point hne' h' => rw [(h.unique h').1, (h.unique h').2]

end SheetImport.Decimal
