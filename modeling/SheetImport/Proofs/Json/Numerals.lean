import SheetImport.Json.Number
import SheetImport.Proofs.Text.Spans

/-!
# Numerals

A numeral can be written from its parts and the parts read back from the text.  The text of every
number of a document is such a text, floats included, so no number spoils the document that it is
written into.  A whole number is moreover read back as the number it was.
-/

namespace SheetImport

/-! ## Digits -/

namespace Decimal

theorem isDigit_of_mem_digitsOf {n : Nat} {c : Char} (h : c ∈ digitsOf n) : c.isDigit :=
  Nat.isDigit_of_mem_toDigits (by decide) (by decide) h

theorem digitsOf_ne_nil (n : Nat) : digitsOf n ≠ [] :=
  Nat.toDigits_ne_nil

/-- The digits of a positive number begin with another digit than zero. -/
theorem head?_digitsOf {n : Nat} (hpos : n ≠ 0) : (digitsOf n).head? ≠ some '0' := by
  have hdigit : ∀ k < 10, k ≠ 0 → [Nat.digitChar k].head? ≠ some '0' := by decide
  induction n using Nat.strong_induction_on with
  | _ n ih =>
      by_cases hsmall : n < 10
      · rw [digitsOf, Nat.toDigits_of_lt_base hsmall]
        exact hdigit n hsmall hpos
      · have hrest := ih (n / 10) (by omega) (by omega)
        rw [digitsOf] at hrest
        rw [digitsOf, Nat.toDigits_of_base_le (by decide) (by omega), List.head?_append]
        cases hhead : (Nat.toDigits 10 (n / 10)).head? with
        | none => exact absurd (List.head?_eq_none_iff.mp hhead) Nat.toDigits_ne_nil
        | some c => rwa [hhead] at hrest

end Decimal

namespace Json.Numeral

theorem plainDigits_iff {digits : List Char} :
    plainDigits digits ↔ digits = ['0'] ∨ digits ≠ [] ∧ digits.head? ≠ some '0' := by
  rcases digits with _ | ⟨first, rest⟩
  · simp [plainDigits]
  · rw [plainDigits.eq_def]
    split <;> simp_all

theorem plainDigits_digitsOf (n : Nat) : plainDigits (Decimal.digitsOf n) := by
  rw [plainDigits_iff]
  by_cases hzero : n = 0
  · subst hzero
    exact .inl rfl
  · exact .inr ⟨Decimal.digitsOf_ne_nil n, Decimal.head?_digitsOf hzero⟩

/-! ## Writing a numeral -/

def fractionText : Option (List Char) → List Char
  | none => []
  | some digits => '.' :: digits

/-- An exponent with its sign, which is never left out. -/
def exponentText : Option (Bool × List Char) → List Char
  | none => []
  | some (down, digits) => 'e' :: (if down then '-' else '+') :: digits

def unsignedText (n : Numeral) : List Char :=
  n.whole ++ (fractionText n.fraction ++ exponentText n.exponent)

def text (n : Numeral) : List Char :=
  if n.negative then '-' :: n.unsignedText else n.unsignedText

/-- Whether the parts of a numeral are digits where there have to be some. -/
structure WellFormed (n : Numeral) : Prop where
  plain : plainDigits n.whole
  whole : ∀ c ∈ n.whole, c.isDigit
  fraction : ∀ digits ∈ n.fraction, digits ≠ [] ∧ ∀ c ∈ digits, c.isDigit
  exponent : ∀ exponent ∈ n.exponent, exponent.2 ≠ [] ∧ ∀ c ∈ exponent.2, c.isDigit

/-! ## Reading it back -/

theorem head?_exponentText {exponent : Option (Bool × List Char)} {c : Char}
    (h : c ∈ (exponentText exponent).head?) : c = 'e' := by
  cases exponent with
  | none => cases h
  | some exponent => cases h; rfl

theorem exponentOf?_exponentText (negative : Bool) (whole : List Char)
    (fraction : Option (List Char)) {exponent : Option (Bool × List Char)}
    (hexponent : ∀ given ∈ exponent, given.2 ≠ [] ∧ ∀ c ∈ given.2, c.isDigit) :
    exponentOf? whole fraction negative (exponentText exponent) =
      some ⟨negative, whole, fraction, exponent⟩ := by
  cases exponent with
  | none => rfl
  | some given =>
      obtain ⟨down, digits⟩ := given
      obtain ⟨hne, hdigits⟩ := hexponent _ rfl
      cases down <;> simp [exponentText, exponentOf?, hne] <;> exact hdigits

theorem unsigned?_unsignedText {n : Numeral} (h : n.WellFormed) (negative : Bool) :
    unsigned? negative n.unsignedText =
      some ⟨negative, n.whole, n.fraction, n.exponent⟩ := by
  obtain ⟨_, whole, fraction, exponent⟩ := n
  have hexponent : ∀ c ∈ (exponentText exponent).head?, c.isDigit = false := by
    intro c hc
    rw [head?_exponentText hc]
    rfl
  cases fraction with
  | none =>
      rw [unsignedText, fractionText, List.nil_append, unsigned?,
        Text.takeWhile_span h.whole hexponent, Text.dropWhile_span h.whole hexponent, if_pos h.plain]
      split
      case h_1 rest hrest =>
        have hpoint := head?_exponentText (by rw [hrest]; rfl)
        cases hpoint
      case h_2 => exact exponentOf?_exponentText negative whole none h.exponent
  | some digits =>
      obtain ⟨hne, hdigits⟩ := h.fraction digits rfl
      have hpoint : ∀ c ∈ ('.' :: (digits ++ exponentText exponent)).head?, c.isDigit = false := by
        rintro c ⟨⟩
        rfl
      rw [unsignedText, fractionText, List.cons_append, unsigned?,
        Text.takeWhile_span h.whole hpoint, Text.dropWhile_span h.whole hpoint, if_pos h.plain]
      simp only [Text.takeWhile_span hdigits hexponent, Text.dropWhile_span hdigits hexponent, hne,
        if_false]
      exact exponentOf?_exponentText negative whole (some digits) h.exponent

theorem exists_unsignedText_eq_cons {n : Numeral} (h : n.WellFormed) :
    ∃ c rest, n.unsignedText = c :: rest ∧ c.isDigit := by
  obtain ⟨negative, _ | ⟨c, whole⟩, fraction, exponent⟩ := n
  · cases h.plain
  · exact ⟨c, _, rfl, h.whole c List.mem_cons_self⟩

/-- Reading undoes writing. -/
theorem ofChars?_text {n : Numeral} (h : n.WellFormed) : ofChars? n.text = some n := by
  rw [text]
  split
  case isTrue hnegative =>
    rw [ofChars?, unsigned?_unsignedText h]
    rw [← hnegative]
  case isFalse hpositive =>
    obtain ⟨c, rest, htext, hdigit⟩ := exists_unsignedText_eq_cons h
    have hsign : c ≠ '-' := by
      rintro rfl
      cases hdigit
    unfold ofChars?
    split
    case h_1 rest' hminus =>
      rw [htext] at hminus
      exact absurd (List.cons.inj hminus).1 hsign
    case h_2 =>
      rw [unsigned?_unsignedText h, ← Bool.eq_false_iff.mpr hpositive]

/-! ## The characters of a numeral -/

theorem exists_text_eq_cons {n : Numeral} (h : n.WellFormed) :
    ∃ c rest, n.text = c :: rest ∧ (c.isDigit ∨ c = '-') := by
  rw [text]
  split
  case isTrue => exact ⟨'-', _, rfl, .inr rfl⟩
  case isFalse =>
    obtain ⟨c, rest, htext, hdigit⟩ := exists_unsignedText_eq_cons h
    exact ⟨c, rest, htext, .inl hdigit⟩

/-! ## Numerals of whole numbers -/

def ofInt (n : Int) : Numeral :=
  ⟨n < 0, Decimal.digitsOf n.natAbs, none, none⟩

theorem wellFormed_ofInt (n : Int) : (ofInt n).WellFormed where
  plain := plainDigits_digitsOf n.natAbs
  whole := fun _ hc => Decimal.isDigit_of_mem_digitsOf hc
  fraction := by rintro digits ⟨⟩
  exponent := by rintro exponent ⟨⟩

theorem text_ofInt (n : Int) : (ofInt n).text = wholeText n := by
  by_cases hnegative : n < 0 <;>
    simp [ofInt, text, unsignedText, fractionText, exponentText, wholeText, hnegative]

theorem whole?_ofInt (n : Int) : (ofInt n).whole? = some n := by
  have hvalue : Nat.ofDigitChars 10 (Decimal.digitsOf n.natAbs) 0 = n.natAbs :=
    Nat.ofDigitChars_ten_toDigits
  rw [ofInt, whole?]
  simp only [hvalue, decide_eq_true_eq]
  split
  case isTrue hnegative =>
    rw [if_neg (by omega), Option.some.injEq]
    omega
  case isFalse hpositive =>
    rw [Option.some.injEq]
    omega

/-! ## Numerals of floats -/

theorem head?_take_of_pos {digits : List Char} {places : Nat} (hplaces : places ≠ 0) :
    (digits.take places).head? = digits.head? := by
  rw [List.head?_take, if_neg hplaces]

theorem isDigit_of_mem_replicate_zero {count : Nat} {c : Char} (hc : c ∈ List.replicate count '0') :
    c.isDigit := by
  rw [List.eq_of_mem_replicate hc]
  rfl

/-- Digits on both sides of a point. -/
theorem wellFormed_pointed {whole fraction : List Char} (hplain : plainDigits whole)
    (hwhole : ∀ c ∈ whole, c.isDigit) (hne : fraction ≠ [])
    (hfraction : ∀ c ∈ fraction, c.isDigit) :
    WellFormed ⟨false, whole, some fraction, none⟩ where
  plain := hplain
  whole := hwhole
  fraction := by
    rintro digits ⟨⟩
    exact ⟨hne, hfraction⟩
  exponent := by rintro exponent ⟨⟩

/-- Digits around a point make a numeral. -/
theorem exists_positionalText {digits : List Char} (hne : digits ≠ [])
    (hdigits : ∀ c ∈ digits, c.isDigit) (hhead : digits.head? ≠ some '0') (lead : Int) :
    ∃ n : Numeral, n.WellFormed ∧ n.unsignedText = Decimal.positionalText true digits lead := by
  rw [Decimal.positionalText]
  by_cases hlead : lead < 0
  · -- All digits stand behind the point.
    refine ⟨⟨false, ['0'], some (List.replicate (lead.natAbs - 1) '0' ++ digits), none⟩, ?_, ?_⟩
    · apply wellFormed_pointed rfl (by simp) (by simp [hne])
      intro c hc
      exact (List.mem_append.mp hc).elim isDigit_of_mem_replicate_zero (hdigits c)
    · simp [unsignedText, fractionText, exponentText, hlead]
  rw [if_neg hlead]
  by_cases hlength : digits.length ≤ lead.toNat + 1
  · -- All digits stand in front of the point.
    refine ⟨⟨false, digits ++ List.replicate (lead.toNat + 1 - digits.length) '0', some ['0'],
      none⟩, ?_, ?_⟩
    · apply wellFormed_pointed _ _ (by simp) (by simp)
      · refine plainDigits_iff.mpr (.inr ⟨by simp [hne], ?_⟩)
        obtain ⟨c, rest, rfl⟩ := List.exists_cons_of_ne_nil hne
        exact hhead
      · intro c hc
        exact (List.mem_append.mp hc).elim (hdigits c) isDigit_of_mem_replicate_zero
    · simp [unsignedText, fractionText, exponentText, hlength]
  · refine ⟨⟨false, digits.take (lead.toNat + 1), some (digits.drop (lead.toNat + 1)), none⟩,
      ?_, ?_⟩
    · apply wellFormed_pointed
      · refine plainDigits_iff.mpr (.inr ⟨by simp [hne], ?_⟩)
        rwa [head?_take_of_pos (by omega)]
      · exact fun c hc => hdigits c (List.mem_of_mem_take hc)
      · rw [ne_eq, List.drop_eq_nil_iff]
        omega
      · exact fun c hc => hdigits c (List.mem_of_mem_drop hc)
    · simp [unsignedText, fractionText, exponentText, hlength]

/-- Digits with an exponent make a numeral. -/
theorem exists_scientific {digits : List Char} (hne : digits ≠ [])
    (hdigits : ∀ c ∈ digits, c.isDigit) (hhead : digits.head? ≠ some '0') (lead : Int) :
    ∃ n : Numeral, n.WellFormed ∧ n.unsignedText = Decimal.scientific digits lead := by
  have hexponent : ∀ given ∈ some (decide (lead < 0), Decimal.digitsOf lead.natAbs),
      given.2 ≠ [] ∧ ∀ c ∈ given.2, c.isDigit := by
    rintro given ⟨⟩
    exact ⟨Decimal.digitsOf_ne_nil _, fun c hc => Decimal.isDigit_of_mem_digitsOf hc⟩
  rcases digits with _ | ⟨first, _ | ⟨second, rest⟩⟩
  · exact absurd rfl hne
  · refine ⟨⟨false, [first], none, some (lead < 0, Decimal.digitsOf lead.natAbs)⟩, ?_, ?_⟩
    · constructor
      · exact plainDigits_iff.mpr (.inr ⟨hne, hhead⟩)
      · exact hdigits
      · rintro fraction ⟨⟩
      · exact hexponent
    · simp [unsignedText, fractionText, exponentText, Decimal.scientific]
  · refine ⟨⟨false, [first], some (second :: rest), some (lead < 0, Decimal.digitsOf lead.natAbs)⟩,
      ?_, ?_⟩
    · constructor
      · exact plainDigits_iff.mpr (.inr ⟨by simp, hhead⟩)
      · simpa using hdigits first (by simp)
      · rintro fraction ⟨⟩
        exact ⟨by simp, fun c hc => hdigits c (List.mem_cons_of_mem _ hc)⟩
      · exact hexponent
    · simp [unsignedText, fractionText, exponentText, Decimal.scientific]

end Json.Numeral

/-! ## The shortest decimal of a positive number is positive -/

namespace Decimal

theorem ne_zero_of_onGrid? {tie : Tie} {b : Binary} {p : Int} {n : Nat}
    (h : b.onGrid? tie p = some n) : n ≠ 0 := by
  unfold Binary.onGrid? at h
  dsimp only at h
  generalize quarters b p (4 * b.mantissa) / tens b p 1 = below at h
  split at h
  case h_1 hbelow _ =>
    have hne : below ≠ 0 := by
      intro hzero
      simp [hzero] at hbelow
    -- Of two points that round to the number one is taken; both are positive.
    cases tie <;> split_ifs at h <;> cases h <;> omega
  case h_2 hbelow _ =>
    cases h
    intro hzero
    simp [hzero] at hbelow
  case h_3 => cases h; omega
  case h_4 => cases h

theorem digits_search_ne_zero {tie : Tie} {b : Binary} (hpos : b.mantissa ≠ 0) (tries : Nat)
    (p : Int) : (b.search tie tries p).digits ≠ 0 := by
  induction tries generalizing p with
  | zero => exact hpos
  | succ tries ih =>
      rw [Binary.search]
      cases hgrid : b.onGrid? tie p with
      | none => exact ih (p - 1)
      | some digits => exact ne_zero_of_onGrid? hgrid

end Decimal

namespace Json

theorem exists_decimalText {d : Decimal.Expansion} (hpos : d.digits ≠ 0) :
    ∃ n : Numeral, n.WellFormed ∧ n.unsignedText = floatLayout.decimalText d := by
  have hne := Decimal.digitsOf_ne_nil d.digits
  have hhead := Decimal.head?_digitsOf hpos
  have hdigits : ∀ c ∈ Decimal.digitsOf d.digits, c.isDigit :=
    fun c hc => Decimal.isDigit_of_mem_digitsOf hc
  rw [Decimal.Layout.decimalText, floatLayout]
  dsimp only
  split
  case isTrue => exact Numeral.exists_positionalText hne hdigits hhead _
  case isFalse => exact Numeral.exists_scientific hne hdigits hhead _

theorem exists_floatText (x : Float) :
    ∃ n : Numeral, n.WellFormed ∧ n.text = floatLayout.text x := by
  have hmagnitude : ∃ n : Numeral, n.WellFormed ∧ n.unsignedText =
      if (Decimal.Binary.ofBits x.toBits.toNat).mantissa = 0 then ['0', '.', '0']
      else floatLayout.decimalText
        ((Decimal.Binary.ofBits x.toBits.toNat).shortest floatLayout.tie) := by
    split
    case isTrue =>
      exact ⟨⟨false, ['0'], some ['0'], none⟩,
        Numeral.wellFormed_pointed rfl (by simp) (by simp) (by simp), rfl⟩
    case isFalse hpos => exact exists_decimalText (Decimal.digits_search_ne_zero hpos _ _)
  obtain ⟨n, hn, htext⟩ := hmagnitude
  rw [Decimal.Layout.text]
  split
  case isTrue =>
    refine ⟨{ n with negative := true }, ⟨hn.plain, hn.whole, hn.fraction, hn.exponent⟩, ?_⟩
    exact congrArg (List.cons '-') htext
  case isFalse =>
    refine ⟨{ n with negative := false }, ⟨hn.plain, hn.whole, hn.fraction, hn.exponent⟩, ?_⟩
    exact htext

namespace Number

/-- Every number is written as a numeral. -/
theorem exists_text (n : Number) :
    ∃ numeral : Numeral, numeral.WellFormed ∧ numeral.text = n.text := by
  cases n with
  | whole n fits => exact ⟨.ofInt n, Numeral.wellFormed_ofInt n, Numeral.text_ofInt n⟩
  | float x finite => exact exists_floatText x

/-- The number that the text of a number stands for, if any. -/
def reread (n : Number) : Option Number :=
  (Numeral.ofChars? n.text).bind ofNumeral?

theorem reread_whole (n : Int) (fits : FitsWord n) :
    reread (.whole n fits) = some (.whole n fits) := by
  rw [reread, text, ← Numeral.text_ofInt, Numeral.ofChars?_text (Numeral.wellFormed_ofInt n),
    Option.bind_some, ofNumeral?, Numeral.whole?_ofInt]
  exact dif_pos fits

end Number

end Json

end SheetImport
