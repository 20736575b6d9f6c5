import SheetImport.Text.Whitespace

/-!
# Letters and digits

The letters and digits of ASCII by their code points.  None of them is white space.
-/

namespace SheetImport.Text

theorem isUpper_iff {c : Char} : c.isUpper ↔ 0x41 ≤ c.toNat ∧ c.toNat ≤ 0x5a :=
  decide_eq_true_iff

theorem isLower_iff {c : Char} : c.isLower ↔ 0x61 ≤ c.toNat ∧ c.toNat ≤ 0x7a :=
  Bool.and_eq_true_iff.trans (and_congr decide_eq_true_iff decide_eq_true_iff)

theorem isAlpha_iff {c : Char} : c.isAlpha ↔ c.isUpper ∨ c.isLower :=
  Bool.or_eq_true_iff

/-- White space lies before the digits, or behind the letters. -/
theorem toNat_of_isSpace {c : Char} (h : isSpace c) : c.toNat < 0x30 ∨ 0x7a < c.toNat := by
  simp only [isSpace, Bool.or_eq_true, Bool.and_eq_true, decide_eq_true_eq, beq_iff_eq] at h
  omega

theorem not_isSpace_of_isAlpha {c : Char} (h : c.isAlpha) : ¬isSpace c := by
  intro hspace
  have := toNat_of_isSpace hspace
  rw [isAlpha_iff, isUpper_iff, isLower_iff] at h
  omega

theorem not_isSpace_of_isDigit {c : Char} (h : c.isDigit) : ¬isSpace c := by
  intro hspace
  have := toNat_of_isSpace hspace
  have hrange : 0x30 ≤ c.toNat ∧ c.toNat ≤ 0x39 := Char.isDigit_iff_toNat.mp h
  omega

end SheetImport.Text
