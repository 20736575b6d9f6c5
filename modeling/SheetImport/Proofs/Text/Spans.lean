import Mathlib.Data.List.TakeWhile

/-!
# Spans of characters

Readers take characters of one kind as long as there are any.  What they take from a text that is put
together of such a span and something else is that span, if the rest does not go on with it.
-/

namespace SheetImport.Text

variable {p : Char → Bool} {span rest : List Char}

theorem takeWhile_span (hspan : ∀ c ∈ span, p c) (hrest : ∀ c ∈ rest.head?, p c = false) :
    (span ++ rest).takeWhile p = span := by
  rw [List.takeWhile_append_of_pos hspan]
  cases rest with
  | nil => simp
  | cons c rest => simp [hrest c rfl]

theorem dropWhile_span (hspan : ∀ c ∈ span, p c) (hrest : ∀ c ∈ rest.head?, p c = false) :
    (span ++ rest).dropWhile p = rest := by
  rw [List.dropWhile_append_of_pos hspan]
  cases rest with
  | nil => rfl
  | cons c rest => simp [hrest c rfl]

end SheetImport.Text
