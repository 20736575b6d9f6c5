import SheetImport.Proofs.ClassFeatures.Grants
import SheetImport.Proofs.Text.Letters
import SheetImport.Proofs.Text.Trimming

/-!
# Names and levels of a summary

Whatever a class features summary says, the level, the base classes and the subclasses that are read
from it are labels: none of them is empty or has white space at its ends.
-/

namespace SheetImport.ClassFeatures

theorem digits_of_levelMark? {cs digits : List Char} (h : levelMark? cs = some digits) :
    digits ≠ [] ∧ ∀ c ∈ digits, c.isDigit := by
  rw [levelMark?, Option.bind_eq_some_iff] at h
  obtain ⟨rest, -, hdigits⟩ := h
  dsimp only at hdigits
  split at hdigits
  case isFalse => cases hdigits
  case isTrue hmark =>
    cases hdigits
    exact ⟨hmark.1, fun c => List.mem_takeWhile_imp⟩

theorem digits_of_firstLevel? {cs digits : List Char} (h : firstLevel? cs = some digits) :
    digits ≠ [] ∧ ∀ c ∈ digits, c.isDigit := by
  induction cs with
  | nil => cases h
  | cons c rest ih =>
      rw [firstLevel?, Option.or_eq_some_iff] at h
      rcases h with hhere | ⟨-, hlater⟩
      · exact digits_of_levelMark? hhere
      · exact ih hlater

/-- The name in a level marker begins with a letter: the blank at its end is another character. -/
theorem letter_of_marker? {cs name digits : List Char} {length : Nat}
    (h : marker? cs = some ((name, digits), length)) : ∃ c ∈ name, c.isAlpha := by
  unfold marker? at h
  split at h
  case h_2 => cases h
  case h_1 opening rest =>
    split at h
    case isFalse => cases h
    case isTrue =>
      dsimp only at h
      split at h
      case isFalse => cases h
      case isTrue hmark =>
        obtain ⟨hfirst, hlast, -⟩ := hmark
        generalize (rest.dropWhile isBlank).takeWhile isNameChar = run at h hfirst hlast
        cases h
        cases run with
        | nil => cases hlast
        | cons c more =>
            have hletter : c.isAlpha := by simpa using hfirst
            cases more with
            | nil =>
                cases hlast
                exact absurd hletter (by decide)
            | cons d others => exact ⟨c, by simp, hletter⟩

theorem takesText_marker? : TakesText marker? where
  nil := rfl
  pos := by
    intro cs mark length h
    unfold marker? at h
    split at h
    case h_2 => cases h
    case h_1 =>
      split at h
      case isFalse => cases h
      case isTrue =>
        dsimp only at h
        split at h
        case isFalse => cases h
        case isTrue =>
          cases h
          omega

theorem isLabel_of_level {text level : String} (h : (ofText text).level = some level) :
    Text.IsLabel level := by
  obtain ⟨digits, hdigits, rfl⟩ := Option.map_eq_some_iff.mp h
  obtain ⟨hne, hall⟩ := digits_of_firstLevel? hdigits
  exact Text.isLabel_ofList hne fun c hc => Text.not_isSpace_of_isDigit (hall c hc)

theorem isLabel_of_mem_baseClasses {text name : String}
    (h : name ∈ (ofText text).baseClasses) : Text.IsLabel name := by
  obtain ⟨word, hword, rfl⟩ := List.mem_map.mp (List.mem_eraseDups.mp h)
  obtain ⟨before, rest, -, -, length, hgrant⟩ := (mem_marks_iff takesText_grant?).mp hword
  obtain ⟨c, after, -, hname, -⟩ := grant?_eq_some_iff.mp hgrant
  exact Text.isLabel_ofList hname.nonempty fun d hd =>
    Text.not_isSpace_of_isAlpha (hname.letters d hd)

theorem isLabel_of_mem_subclasses {text name : String}
    (h : name ∈ (ofText text).subclasses) : Text.IsLabel name := by
  obtain ⟨hmarked, -⟩ := List.mem_filter.mp (List.mem_eraseDups.mp h)
  obtain ⟨mark, hmark, rfl⟩ := List.mem_map.mp hmarked
  obtain ⟨before, rest, -, -, length, hfound⟩ :=
    (mem_marks_iff takesText_marker?).mp (List.mem_filter.mp hmark).1
  obtain ⟨c, hc, hletter⟩ := letter_of_marker? hfound
  exact Text.isLabel_ofList_trimChars ⟨c, hc, Text.not_isSpace_of_isAlpha hletter⟩

end SheetImport.ClassFeatures
