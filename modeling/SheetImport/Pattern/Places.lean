/-!
# Places of a text

A set of places in a text is a natural number: place `i`, before character `i`, is in the set when
bit `i` is set.  Sets are joined and met bit by bit, and going over one character is a shift.  Going
over any number of characters is an addition: the carry runs through the characters that may be gone
over, and it stops at the first that may not.
-/

namespace SheetImport.Pattern.Places

/-! ## Places that satisfy something -/

/-- A set of places that grows at its low end.  The lowest places are held apart as long as they are
few, since it is costly to shift all the others. -/
structure Growing where
  high : Nat
  low : Nat
  width : Nat

def Growing.span : Nat := 48

def Growing.empty : Growing :=
  ⟨0, 0, 0⟩

def Growing.places (growing : Growing) : Nat :=
  growing.high <<< growing.width + growing.low

def Growing.push (growing : Growing) (bit : Bool) : Growing :=
  let low := 2 * growing.low + bit.toNat
  if growing.width + 1 = Growing.span then ⟨growing.high <<< Growing.span + low, 0, 0⟩
  else ⟨growing.high, low, growing.width + 1⟩

theorem Growing.places_push (growing : Growing) (bit : Bool) :
    (growing.push bit).places = 2 * growing.places + bit.toNat := by
  have shifted : growing.high <<< (growing.width + 1) = 2 * growing.high <<< growing.width := by
    rw [Nat.shiftLeft_succ]
  unfold Growing.push Growing.places
  by_cases full : growing.width + 1 = Growing.span
  · simp only [full, if_true, Nat.shiftLeft_zero, Nat.add_zero]
    rw [← full, shifted]
    omega
  · simp only [full, if_false]
    rw [shifted]
    omega

/-- The places at which a list has what satisfies a condition. -/
def satisfying {α : Type} (holds : α → Bool) (items : List α) : Nat :=
  (items.foldr (fun item growing => Growing.push growing (holds item)) Growing.empty).places

theorem satisfying_nil {α : Type} (holds : α → Bool) : satisfying holds [] = 0 :=
  rfl

/-- Holding the lowest places apart makes no difference. -/
theorem satisfying_cons {α : Type} (holds : α → Bool) (item : α) (rest : List α) :
    satisfying holds (item :: rest) = 2 * satisfying holds rest + (holds item).toNat := by
  rw [satisfying, List.foldr_cons, Growing.places_push]
  rfl

/-- A place is in the set when there is an item at it that satisfies the condition. -/
theorem testBit_satisfying {α : Type} (holds : α → Bool) (items : List α) (i : Nat) :
    (satisfying holds items).testBit i = items[i]?.any holds := by
  induction items generalizing i with
  | nil => simp [satisfying_nil]
  | cons item rest ih =>
      rw [satisfying_cons]
      cases i with
      | zero => cases h : holds item <;> simp [Nat.testBit_zero, h]
      | succ i =>
          rw [Nat.testBit_succ]
          have half : (2 * satisfying holds rest + (holds item).toNat) / 2 =
              satisfying holds rest := by
            cases holds item <;> simp only [Bool.toNat_true, Bool.toNat_false] <;> omega
          rw [half, ih, List.getElem?_cons_succ]

/-! ## Going over characters -/

/-- The places behind one character, where `before` are the places in front of those that may be gone
over. -/
def step (before places : Nat) : Nat :=
  (places &&& before) <<< 1

/-- The places behind any number of characters. -/
def run (before places : Nat) : Nat :=
  places ||| (((places &&& before) + before) ^^^ before)

/-! ### The carry -/

/-- The places behind any number of characters, and what an earlier carry adds to them. -/
private def runFrom (carry : Bool) (before places : Nat) : Nat :=
  places ||| (((places &&& before) + before + carry.toNat) ^^^ before)

private theorem testBit_runFrom_zero (carry : Bool) (before places : Nat) :
    (runFrom carry before places).testBit 0 = (places.testBit 0 || carry) := by
  rw [Bool.eq_iff_iff]
  have hand := @Nat.and_mod_two_eq_one places before
  simp only [runFrom, Nat.testBit_zero, Nat.or_mod_two_eq_one, Nat.xor_mod_two_eq_one,
    Bool.or_eq_true, decide_eq_true_eq]
  cases carry <;> simp <;> omega

private theorem runFrom_div_two (carry : Bool) (before places : Nat) :
    runFrom carry before places / 2 =
      runFrom (before.testBit 0 && (places.testBit 0 || carry)) (before / 2) (places / 2) := by
  have hand := @Nat.and_mod_two_eq_one places before
  simp only [runFrom, Nat.or_div_two, Nat.xor_div_two, Nat.testBit_zero]
  congr 2
  rw [← Nat.and_div_two]
  generalize places &&& before = common at hand
  by_cases hb : before % 2 = 1 <;> by_cases hp : places % 2 = 1 <;> cases carry <;>
    simp only [hb, hp, decide_true, decide_false, Bool.or_true, Bool.or_false, Bool.and_true,
      Bool.and_false, Bool.toNat_true, Bool.toNat_false, and_true, and_false, iff_true,
      iff_false] at hand ⊢ <;> omega

private theorem testBit_runFrom_succ (i : Nat) : ∀ (carry : Bool) (before places : Nat),
    (runFrom carry before places).testBit (i + 1) =
      (places.testBit (i + 1) || (before.testBit i && (runFrom carry before places).testBit i)) := by
  induction i with
  | zero =>
      intro carry before places
      rw [Nat.testBit_succ, runFrom_div_two, testBit_runFrom_zero, testBit_runFrom_zero,
        Nat.testBit_div_two]
  | succ i ih =>
      intro carry before places
      rw [Nat.testBit_succ, runFrom_div_two, ih, Nat.testBit_div_two, Nat.testBit_div_two,
        ← runFrom_div_two, Nat.testBit_div_two]

/-- No place is reached before the first. -/
theorem testBit_run_zero (before places : Nat) :
    (run before places).testBit 0 = places.testBit 0 := by
  have h := testBit_runFrom_zero false before places
  rwa [Bool.or_false] at h

/-- A place is reached if it is one of those to begin with, or if the place before it is reached and
the character between them may be gone over. -/
theorem testBit_run_succ (before places i : Nat) :
    (run before places).testBit (i + 1) =
      (places.testBit (i + 1) || (before.testBit i && (run before places).testBit i)) :=
  testBit_runFrom_succ i false before places

end SheetImport.Pattern.Places
