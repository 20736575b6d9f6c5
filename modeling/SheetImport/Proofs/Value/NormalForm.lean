import SheetImport.Proofs.Text.Trimming
import SheetImport.Value.Basic

/-!
# Normal forms and falsy values

What becomes of a resolved value can be said without the functions that do it.  The mark of an
unchecked box stands for false and empty text for null, and every other value stands for itself.  A
value that does not count as given is one of a few: null, false, a zero, a float that is not a
number, or empty text.
-/

namespace SheetImport.Value

open Float.Model (UnpackedFloat)

/-! ## Normal forms -/

/-- What a resolved value stands for. -/
inductive NormalForm : Value → Value → Prop
  | unchecked : NormalForm (.text "Off") (.boolean false)
  | blank : NormalForm (.text "") .null
  | same {value : Value} (hunchecked : value ≠ .text "Off") (hblank : value ≠ .text "") :
      NormalForm value value

theorem normalForm_iff {raw value : Value} : NormalForm raw value ↔ value = raw.normalized := by
  constructor
  · rintro (_ | _ | ⟨hunchecked, hblank⟩)
    · rfl
    · rfl
    · cases raw <;> simp_all [normalized, uncheckedMark]
  · rintro rfl
    cases raw with
    | text s =>
        by_cases hunchecked : s = "Off"
        · subst hunchecked
          exact .unchecked
        by_cases hblank : s = ""
        · subst hblank
          exact .blank
        have hsame : (text s).normalized = text s := by
          rw [normalized, uncheckedMark, if_neg hunchecked, if_neg hblank]
        rw [hsame]
        exact .same (by simpa using hunchecked) (by simpa using hblank)
    | _ => exact .same (by simp) (by simp)

/-! ## Falsy values -/

/-- A value that does not count as given.  Zero is falsy with either sign. -/
inductive IsFalsy : Value → Prop
  | null : IsFalsy .null
  | boolean : IsFalsy (.boolean false)
  | integer : IsFalsy (.integer 0)
  | zero {x : Float} {sign : UnpackedFloat.Sign} (hzero : x.toModel.unpack = .zero sign) :
      IsFalsy (.float x)
  | notANumber {x : Float} (hnan : x.toModel.unpack = .notANumber) : IsFalsy (.float x)
  | text : IsFalsy (.text "")

theorem unpack_zero : (0.0 : Float).toModel.unpack = .zero .positive := by
  rfl

theorem beq_zero_iff (x : Float) : (x == 0.0) ↔ ∃ sign, x.toModel.unpack = .zero sign := by
  have hbeq : (x == 0.0) = x.toModel.unpack.beq (0.0 : Float).toModel.unpack := rfl
  rw [hbeq, unpack_zero]
  cases x.toModel.unpack with
  | infinity sign => cases sign <;> exact ⟨nofun, nofun⟩
  | notANumber => exact ⟨nofun, nofun⟩
  | zero sign => exact ⟨fun _ => ⟨sign, rfl⟩, fun _ => rfl⟩
  | finite sign => cases sign <;> exact ⟨nofun, nofun⟩

theorem isNaN_iff (x : Float) : x.isNaN ↔ x.toModel.unpack = .notANumber := by
  change x.toModel.unpack.isNaN ↔ _
  cases x.toModel.unpack with
  | notANumber => exact ⟨fun _ => rfl, fun _ => rfl⟩
  | _ => exact ⟨nofun, nofun⟩

theorem isFalsy_float_iff (x : Float) : IsFalsy (.float x) ↔ x == 0.0 ∨ x.isNaN := by
  rw [beq_zero_iff, isNaN_iff]
  constructor
  · rintro (_ | _ | _ | hzero | hnan | _)
    · exact .inl ⟨_, hzero⟩
    · exact .inr hnan
  · rintro (⟨sign, hzero⟩ | hnan)
    · exact .zero hzero
    · exact .notANumber hnan

theorem isFalsy_iff {value : Value} : value.IsFalsy ↔ value.isTruthy = false := by
  cases value with
  | null => simp [isTruthy, IsFalsy.null]
  | boolean b =>
      rw [isTruthy]
      exact ⟨by rintro ⟨⟩; rfl, by rintro rfl; exact .boolean⟩
  | integer n =>
      rw [isTruthy, bne_eq_false_iff_eq]
      exact ⟨by rintro ⟨⟩; rfl, by rintro rfl; exact .integer⟩
  | float x =>
      rw [isFalsy_float_iff, isTruthy, bne]
      cases x == 0.0 <;> cases x.isNaN <;> simp
  | text s =>
      rw [isTruthy, bne_eq_false_iff_eq]
      exact ⟨by rintro ⟨⟩; rfl, by rintro rfl; exact .text⟩
  | list items => simpa [isTruthy] using by rintro ⟨⟩
  | object members => simpa [isTruthy] using by rintro ⟨⟩

instance : DecidablePred IsFalsy := fun _ =>
  decidable_of_iff _ isFalsy_iff.symm

theorem decide_not_isFalsy (value : Value) : decide (¬value.IsFalsy) = value.isTruthy := by
  rw [Bool.eq_iff_iff, decide_eq_true_iff, isFalsy_iff, Bool.not_eq_false]

end SheetImport.Value
