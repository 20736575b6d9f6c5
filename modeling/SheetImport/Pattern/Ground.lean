import SheetImport.Pattern.Node
import SheetImport.Pattern.Places

/-!
# Texts laid out for patterns

A pattern asks of a text where the characters of some set are and where some condition holds.  Most
sets are single letters, so the places of each character of the text are kept once they are known.
-/

namespace SheetImport.Pattern

/-- A text with the places in front of each of its characters. -/
structure Ground where
  chars : List Char
  occurrences : List (Char × Thunk Nat)

namespace Ground

def ofChars (cs : List Char) : Ground :=
  ⟨cs, cs.eraseDups.map fun c => (c, Thunk.mk fun _ => Places.satisfying (· == c) cs)⟩

def beforeChar (ground : Ground) (c : Char) : Nat :=
  ((ground.occurrences.lookup c).map Thunk.get).getD 0

/-- The places in front of a character of a set. -/
def before (ground : Ground) (chars : CharSet) : Nat :=
  if chars.ranges.all fun range => range.first == range.last then
    chars.ranges.foldr (fun range places => ground.beforeChar range.first ||| places) 0
  else Places.satisfying chars.contains ground.chars

def neighbours (ground : Ground) : List (Option Char × Option Char) :=
  List.zip (none :: ground.chars.map some) (ground.chars.map some ++ [none])

def holding (ground : Ground) (condition : Look) : Nat :=
  Places.satisfying (fun (before, after) => condition.holds before after) ground.neighbours

/-! ## What is kept is what is asked for -/

private theorem lookup_map_thunk (f : Char → Nat) (cs : List Char) (c : Char) :
    ((cs.map fun d => (d, Thunk.mk fun _ => f d)).lookup c).map Thunk.get =
      if c ∈ cs then some (f c) else none := by
  induction cs with
  | nil => rfl
  | cons d rest ih =>
      by_cases h : c = d
      · subst h
        simp [Thunk.get]
      · simp [List.lookup_cons, beq_false_of_ne h, h, ih]

theorem beforeChar_ofChars (cs : List Char) (c : Char) :
    (ofChars cs).beforeChar c = Places.satisfying (· == c) cs := by
  rw [beforeChar, ofChars, lookup_map_thunk fun d => Places.satisfying (· == d) cs]
  by_cases h : c ∈ cs
  · simp [List.mem_eraseDups, h]
  · simp only [List.mem_eraseDups, h, if_false, Option.getD_none]
    apply Nat.eq_of_testBit_eq
    intro i
    rw [Nat.zero_testBit, Places.testBit_satisfying]
    cases hi : cs[i]? with
    | none => rfl
    | some d =>
        have hd : d ≠ c := fun same => h (same ▸ List.mem_of_getElem? hi)
        simp [hd]

/-- Single characters of a set are found where they are kept, and any other set is looked for. -/
theorem before_ofChars (cs : List Char) (chars : CharSet) :
    (ofChars cs).before chars = Places.satisfying chars.contains cs := by
  unfold before
  split
  · next single =>
      apply Nat.eq_of_testBit_eq
      intro i
      rw [Places.testBit_satisfying]
      obtain ⟨ranges⟩ := chars
      induction ranges with
      | nil => cases cs[i]? <;> simp [CharSet.contains]
      | cons range rest ih =>
          rw [List.all_cons, Bool.and_eq_true, beq_iff_eq] at single
          rw [List.foldr_cons, Nat.testBit_or, ih single.2, beforeChar_ofChars,
            Places.testBit_satisfying]
          cases cs[i]? with
          | none => rfl
          | some c =>
              have same : (c == range.first) = range.contains c := by
                rw [CharRange.contains, ← single.1, Bool.eq_iff_iff, beq_iff_eq,
                  Bool.and_eq_true, decide_eq_true_iff, decide_eq_true_iff]
                exact ⟨fun h => h ▸ ⟨Char.le_refl _, Char.le_refl _⟩,
                  fun h => Char.le_antisymm h.2 h.1⟩
              simp [CharSet.contains, same]
  · rfl

end Ground

end SheetImport.Pattern
