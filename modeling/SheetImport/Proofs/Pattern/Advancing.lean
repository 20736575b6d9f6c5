import Mathlib.Data.Finset.Card
import Mathlib.Data.Finset.Range
import Mathlib.Logic.Function.Iterate
import Mathlib.Order.Monotone.Basic
import SheetImport.Pattern.Search

/-!
# Sets of places and relations between places

The search moves a whole set of places at a time.  What it computes is the image of the set under a
relation between two places, and of a repetition the image under the relation taken several times.
Stopping where the set no longer changes and taking only new places further lose nothing, and a
repetition without an end needs no more rounds than the text has places.
-/

namespace SheetImport.Pattern

/-- Whether a relation leads from one place to another in so many steps. -/
def Times (related : Nat → Nat → Prop) : Nat → Nat → Nat → Prop
  | 0, i, j => i = j
  | n + 1, i, j => ∃ k, related i k ∧ Times related n k j

section Times

variable {related : Nat → Nat → Prop}

theorem times_add (m n i j : Nat) :
    Times related (m + n) i j ↔ ∃ k, Times related m i k ∧ Times related n k j := by
  induction m generalizing i with
  | zero => simp [Times]
  | succ m ih =>
      rw [Nat.succ_add]
      simp only [Times, ih]
      constructor
      · rintro ⟨k, hstep, l, hfirst, hsecond⟩
        exact ⟨l, ⟨k, hstep, hfirst⟩, hsecond⟩
      · rintro ⟨l, ⟨k, hstep, hfirst⟩, hsecond⟩
        exact ⟨k, hstep, l, hfirst, hsecond⟩

theorem times_one (i j : Nat) : Times related 1 i j ↔ related i j := by
  simp [Times]

/-- What holds at one place and is kept by every step holds wherever the steps lead. -/
theorem Times.preserves {holds : Nat → Prop} (hkeep : ∀ i j, holds i → related i j → holds j)
    {n i j : Nat} (htimes : Times related n i j) (hi : holds i) : holds j := by
  induction n generalizing i with
  | zero => exact (show i = j from htimes) ▸ hi
  | succ n ih =>
      obtain ⟨k, hstep, hrest⟩ := htimes
      exact ih hrest (hkeep i k hi hstep)

/-- Whether some places lead to another one within so many steps. -/
def LedTo (related : Nat → Nat → Prop) (start : Nat → Prop) (steps j : Nat) : Prop :=
  ∃ n ≤ steps, ∃ i, start i ∧ Times related n i j

variable {start : Nat → Prop}

theorem LedTo.mono {few many j : Nat} (hled : LedTo related start few j) (hle : few ≤ many) :
    LedTo related start many j := by
  obtain ⟨n, hn, hplace⟩ := hled
  exact ⟨n, hn.trans hle, hplace⟩

/-- One more step only depends on where the steps before it led. -/
theorem ledTo_succ (steps j : Nat) :
    LedTo related start (steps + 1) j ↔
      start j ∨ ∃ k, LedTo related start steps k ∧ related k j := by
  constructor
  · rintro ⟨n, hn, i, hi, htimes⟩
    cases n with
    | zero => exact .inl ((show i = j from htimes) ▸ hi)
    | succ n =>
        obtain ⟨k, hbefore, hlast⟩ := (times_add n 1 i j).mp htimes
        exact .inr ⟨k, ⟨n, Nat.le_of_succ_le_succ hn, i, hi, hbefore⟩, (times_one k j).mp hlast⟩
  · rintro (hj | ⟨k, ⟨n, hn, i, hi, hbefore⟩, hlast⟩)
    · exact ⟨0, Nat.zero_le _, j, hj, rfl⟩
    · exact ⟨n + 1, Nat.succ_le_succ hn, i, hi,
        (times_add n 1 i j).mpr ⟨k, hbefore, (times_one k j).mpr hlast⟩⟩

/-- The first step can be taken beforehand, if what it leads to is added to the start. -/
theorem ledTo_added {added : Nat → Prop}
    (hstep : ∀ i k, start i → related i k → start k ∨ added k)
    (hadded : ∀ k, added k → ∃ i, start i ∧ related i k) (steps j : Nat) :
    LedTo related (fun i => start i ∨ added i) steps j ↔ LedTo related start (steps + 1) j := by
  constructor
  · rintro ⟨n, hn, i, hi | hi, htimes⟩
    · exact ⟨n, Nat.le_succ_of_le hn, i, hi, htimes⟩
    · obtain ⟨k, hk, hki⟩ := hadded i hi
      exact ⟨n + 1, Nat.succ_le_succ hn, k, hk, i, hki, htimes⟩
  · rintro ⟨n, hn, i, hi, htimes⟩
    cases n with
    | zero => exact ⟨0, Nat.zero_le _, i, .inl hi, htimes⟩
    | succ n =>
        obtain ⟨k, hik, hrest⟩ := htimes
        exact ⟨n, Nat.le_of_succ_le_succ hn, k, hstep i k hi hik, hrest⟩

/-- Among so many places, that many steps lead wherever any number of steps does. -/
theorem LedTo.of_any {count : Nat} (hstart : ∀ i, start i → i < count)
    (hwithin : ∀ i j, i < count → related i j → j < count) {steps j : Nat}
    (hled : LedTo related start steps j) : LedTo related start count j := by
  classical
  let led (steps : Nat) : Finset Nat := (Finset.range count).filter (LedTo related start steps)
  have hmem : ∀ steps j, j ∈ led steps ↔ LedTo related start steps j := by
    intro steps j
    rw [Finset.mem_filter, Finset.mem_range, and_iff_right_iff_imp]
    rintro ⟨n, -, i, hi, htimes⟩
    exact htimes.preserves hwithin (hstart i hi)
  have hmono : Monotone led := fun few many hle j hj =>
    (hmem many j).mpr (((hmem few j).mp hj).mono hle)
  have hnext : ∀ steps, led steps = led (steps + 1) → led (steps + 1) = led (steps + 2) := by
    intro steps hsame
    ext j
    simp only [hmem, ledTo_succ (steps + 1) j, ledTo_succ steps j]
    simp only [← hmem, ← hsame]
  have hcard : ∀ steps, (led steps).card ≤ count := fun steps =>
    (Finset.card_filter_le _ _).trans_eq (Finset.card_range count)
  have hstable : ∀ steps, count ≤ steps → led steps = led count := by
    intro steps hsteps
    refine (Finset.eq_of_subset_of_card_le (hmono hsteps) (le_of_eq ?_)).symm
    refine Nat.stabilises_of_monotone (fun _ _ hle => Finset.card_le_card (hmono hle)) hcard
      (fun m hm => ?_) hsteps
    rw [hnext m (Finset.eq_of_subset_of_card_le (hmono (Nat.le_succ m)) hm.ge)]
  rw [← hmem, ← hstable _ (le_max_right steps count), hmem]
  exact hled.mono (le_max_left _ _)

end Times

/-- Whether all places of a set are among so many. -/
def Within (count places : Nat) : Prop :=
  ∀ i, places.testBit i → i < count

/-- Whether a function takes each set of so many places to its image under a relation. -/
structure Takes (count : Nat) (f : Nat → Nat) (related : Nat → Nat → Prop) : Prop where
  within : ∀ i j, i < count → related i j → j < count
  testBit_iff : ∀ places, Within count places →
    ∀ j, (f places).testBit j ↔ ∃ i, places.testBit i ∧ related i j

/-- Where the set no longer changes, going on would not change it either. -/
theorem iterate_eq (step : Nat → Nat) (n places : Nat) :
    iterate step n places = Nat.iterate step n places := by
  induction n generalizing places with
  | zero => rfl
  | succ n ih =>
      rw [iterate, Function.iterate_succ_apply]
      by_cases hfixed : step places = places
      · simp only [hfixed, if_true]
        exact (Function.iterate_fixed hfixed n).symm
      · simp only [hfixed, if_false]
        exact ih _

namespace Takes

variable {count : Nat} {f g : Nat → Nat} {related other : Nat → Nat → Prop}

theorem within_apply (h : Takes count f related) {places : Nat} (hplaces : Within count places) :
    Within count (f places) := by
  intro j hj
  obtain ⟨i, hi, hrelated⟩ := (h.testBit_iff places hplaces j).mp hj
  exact h.within i j (hplaces i hi) hrelated

theorem congr (h : Takes count f related) (heq : ∀ i j, i < count → (related i j ↔ other i j)) :
    Takes count f other where
  within i j hi hother := h.within i j hi ((heq i j hi).mpr hother)
  testBit_iff places hplaces j := by
    rw [h.testBit_iff places hplaces]
    exact exists_congr fun i => and_congr_right fun hi => heq i j (hplaces i hi)

/-- From no place nothing is reached, so nothing needs to be done there. -/
theorem unless_zero (h : Takes count f related) :
    Takes count (fun places => if places = 0 then 0 else f places) related where
  within := h.within
  testBit_iff places hplaces j := by
    by_cases hzero : places = 0
    · simp [hzero]
    · simp only [hzero, if_false]
      exact h.testBit_iff places hplaces j

theorem identity : Takes count (fun places => places) Eq where
  within _ _ hi heq := heq ▸ hi
  testBit_iff places _ j := by simp

theorem comp (hf : Takes count f related) (hg : Takes count g other) :
    Takes count (fun places => g (f places)) fun i j => ∃ k, related i k ∧ other k j where
  within := by
    rintro i j hi ⟨k, hfirst, hsecond⟩
    exact hg.within k j (hf.within i k hi hfirst) hsecond
  testBit_iff places hplaces j := by
    rw [hg.testBit_iff _ (hf.within_apply hplaces)]
    simp only [hf.testBit_iff places hplaces]
    constructor
    · rintro ⟨k, ⟨i, hi, hfirst⟩, hsecond⟩
      exact ⟨i, hi, k, hfirst, hsecond⟩
    · rintro ⟨i, hi, k, hfirst, hsecond⟩
      exact ⟨k, ⟨i, hi, hfirst⟩, hsecond⟩

theorem union (hf : Takes count f related) (hg : Takes count g other) :
    Takes count (fun places => f places ||| g places) fun i j => related i j ∨ other i j where
  within i j hi h := h.elim (hf.within i j hi) (hg.within i j hi)
  testBit_iff places hplaces j := by
    rw [Nat.testBit_or, Bool.or_eq_true, hf.testBit_iff places hplaces,
      hg.testBit_iff places hplaces]
    simp only [and_or_left, exists_or]

/-! ## Single places -/

theorem step {before : Nat} (hbefore : ∀ i, before.testBit i → i + 1 < count) :
    Takes count (Places.step before) fun i j => before.testBit i ∧ j = i + 1 where
  within := by
    rintro i j - ⟨hi, rfl⟩
    exact hbefore i hi
  testBit_iff places _ j := by
    rw [Places.step, Nat.testBit_shiftLeft, Nat.testBit_and]
    simp only [Bool.and_eq_true, decide_eq_true_eq]
    constructor
    · rintro ⟨hpos, hplace, hchar⟩
      exact ⟨j - 1, hplace, hchar, by omega⟩
    · rintro ⟨i, hplace, hchar, rfl⟩
      exact ⟨Nat.succ_le_succ (Nat.zero_le i), hplace, hchar⟩

theorem look {here : Nat} : Takes count (· &&& here) fun i j => here.testBit i ∧ i = j where
  within i j hi h := h.2 ▸ hi
  testBit_iff places _ j := by
    rw [Nat.testBit_and, Bool.and_eq_true]
    constructor
    · rintro ⟨hplace, hhere⟩
      exact ⟨j, hplace, hhere, rfl⟩
    · rintro ⟨i, hplace, hhere, rfl⟩
      exact ⟨hplace, hhere⟩

/-- The carry of the addition runs through as many characters as there are. -/
theorem run {before : Nat} (hbefore : ∀ i, before.testBit i → i + 1 < count) :
    Takes count (Places.run before)
      fun i j => ∃ n, Times (fun i j => before.testBit i ∧ j = i + 1) n i j where
  within := by
    rintro i j hi ⟨n, htimes⟩
    exact htimes.preserves (step hbefore).within hi
  testBit_iff places _ j := by
    induction j with
    | zero =>
        rw [Places.testBit_run_zero]
        constructor
        · exact fun hplace => ⟨0, hplace, 0, rfl⟩
        · rintro ⟨i, hplace, n, htimes⟩
          cases n with
          | zero => exact (show i = 0 from htimes) ▸ hplace
          | succ n =>
              obtain ⟨k, -, hlast⟩ := (times_add n 1 i 0).mp htimes
              cases ((times_one k 0).mp hlast).2
    | succ j ih =>
        rw [Places.testBit_run_succ, Bool.or_eq_true, Bool.and_eq_true, ih]
        constructor
        · rintro (hplace | ⟨hchar, i, hplace, n, htimes⟩)
          · exact ⟨j + 1, hplace, 0, rfl⟩
          · exact ⟨i, hplace, n + 1,
              (times_add n 1 i (j + 1)).mpr ⟨j, htimes, (times_one _ _).mpr ⟨hchar, rfl⟩⟩⟩
        · rintro ⟨i, hplace, n, htimes⟩
          cases n with
          | zero => exact .inl ((show i = j + 1 from htimes) ▸ hplace)
          | succ n =>
              obtain ⟨k, hbefore, hlast⟩ := (times_add n 1 i (j + 1)).mp htimes
              obtain ⟨hchar, hk⟩ := (times_one _ _).mp hlast
              obtain rfl : j = k := Nat.succ.inj hk
              exact .inr ⟨hchar, i, hplace, n, hbefore⟩

/-! ## Repetitions -/

theorem iterate (h : Takes count f related) (n : Nat) :
    Takes count (Pattern.iterate f n) (Times related n) := by
  have hpower : Takes count (Nat.iterate f n) (Times related n) := by
    induction n with
    | zero => exact identity
    | succ n ih => exact h.comp ih
  exact (funext (iterate_eq f n) : Pattern.iterate f n = _) ▸ hpower

/-- What `reach` adds to places of which only those of the frontier may lead further. -/
theorem testBit_reach (h : Takes count f related) {times reached frontier : Nat}
    (hreached : Within count reached) (hfrontier : ∀ i, frontier.testBit i → reached.testBit i)
    (hrest : ∀ i j, reached.testBit i → ¬frontier.testBit i → related i j → reached.testBit j)
    (j : Nat) : (reach f times reached frontier).testBit j ↔
      LedTo related (fun i => reached.testBit i) times j := by
  induction times generalizing reached frontier with
  | zero => simp [reach, LedTo, Times]
  | succ times ih =>
      have hnext := h.testBit_iff frontier fun i hi => hreached i (hfrontier i hi)
      generalize hnew : f frontier ^^^ (f frontier &&& reached) = new
      have hmem : ∀ i, new.testBit i ↔ (f frontier).testBit i ∧ ¬reached.testBit i := by
        intro i
        rw [← hnew, Nat.testBit_xor, Nat.testBit_and]
        cases (f frontier).testBit i <;> cases reached.testBit i <;> simp
      have hadded : ∀ k, new.testBit k → ∃ i, reached.testBit i ∧ related i k := by
        intro k hk
        obtain ⟨i, hi, hik⟩ := (hnext k).mp ((hmem k).mp hk).1
        exact ⟨i, hfrontier i hi, hik⟩
      -- A step from what is reached stays there, or it leads to one of the new places.
      have hstep : ∀ i k, reached.testBit i → related i k → reached.testBit k ∨ new.testBit k := by
        intro i k hi hik
        by_cases hlast : frontier.testBit i
        · rw [hmem, or_iff_not_imp_left]
          exact fun hold => ⟨(hnext k).mpr ⟨i, hlast, hik⟩, hold⟩
        · exact .inl (hrest i k hi hlast hik)
      rw [← ledTo_added hstep hadded]
      simp only [reach, hnew, ← Bool.or_eq_true, ← Nat.testBit_or]
      split
      case isTrue hnone =>
        subst hnone
        simp only [Nat.zero_testBit, Bool.false_eq_true, or_false] at hstep
        rw [Nat.or_zero]
        constructor
        · exact fun hj => ⟨0, Nat.zero_le _, j, hj, rfl⟩
        · rintro ⟨n, -, i, hi, htimes⟩
          exact htimes.preserves hstep hi
      case isFalse =>
        apply ih
        · intro i hi
          rw [Nat.testBit_or, Bool.or_eq_true] at hi
          rcases hi with hold | hnew
          · exact hreached i hold
          · obtain ⟨k, hk, hki⟩ := hadded i hnew
            exact h.within k i (hreached k hk) hki
        · intro i hi
          rw [Nat.testBit_or, hi, Bool.or_true]
        · intro i k hi hnot hik
          rw [Nat.testBit_or, Bool.or_eq_true] at hi ⊢
          exact hstep i k (hi.resolve_right hnot) hik

/-- A repetition of at least so many rounds, and of at most so many more if there is a bound. -/
theorem repetition (h : Takes count f related) (least : Nat) (bound : Option Nat) :
    Takes count
      (fun places => reach f (bound.getD count) (Pattern.iterate f least places)
        (Pattern.iterate f least places))
      fun i j => ∃ n, (∀ most ∈ bound, n ≤ most) ∧ Times related (least + n) i j where
  within := by
    rintro i j hi ⟨n, -, htimes⟩
    exact htimes.preserves h.within hi
  testBit_iff places hplaces j := by
    have hstarted := (h.iterate least).within_apply hplaces
    rw [h.testBit_reach hstarted (fun i hi => hi) fun i k hi hnot => absurd hi hnot]
    simp only [(h.iterate least).testBit_iff places hplaces]
    constructor
    · rintro ⟨n, hn, k, ⟨i, hi, hleast⟩, hmore⟩
      refine ⟨i, hi, n, ?_, (times_add least n i j).mpr ⟨k, hleast, hmore⟩⟩
      rintro most rfl
      exact hn
    · rintro ⟨i, hi, n, hn, htimes⟩
      obtain ⟨k, hleast, hmore⟩ := (times_add least n i j).mp htimes
      have hled : LedTo related (fun k => ∃ i, places.testBit i ∧ Times related least i k) n j :=
        ⟨n, le_rfl, k, ⟨i, hi, hleast⟩, hmore⟩
      cases bound with
      | some most => exact hled.mono (hn most rfl)
      | none =>
          refine hled.of_any ?_ h.within
          rintro k ⟨i, hi, hleast⟩
          exact hleast.preserves h.within (hplaces i hi)

end Takes

end SheetImport.Pattern
