import SheetImport.Pattern.Basic
import SheetImport.Proofs.Pattern.Advancing

/-!
# What a pattern matches

A pattern spans two places of a text when the characters between them, and the conditions on the way,
are as the pattern says.  The search finds a match in a text just when the pattern spans any two of
its places.
-/

namespace SheetImport.Pattern

/-- Whether the pattern matches from one place of a text to another.  The number of rounds of a
repetition is counted from the least one on. -/
def Node.Spans (cs : List Char) : Node → Nat → Nat → Prop
  | .empty, i, j => i = j
  | .set chars, i, j => cs[i]?.any chars.contains ∧ j = i + 1
  | .look condition, i, j =>
      (i ≤ cs.length ∧ condition.holds (cs.take i).getLast? cs[i]?) ∧ i = j
  | .sequence first second, i, j => ∃ k, first.Spans cs i k ∧ second.Spans cs k j
  | .either left right, i, j => left.Spans cs i j ∨ right.Spans cs i j
  | .repeated least most body, i, j =>
      ∃ n, (∀ bound ∈ most, n ≤ bound - least) ∧ Times (body.Spans cs) (least + n) i j

/-! ## Patterns laid over a text -/

namespace Ground

variable (cs : List Char)

theorem testBit_before_ofChars (chars : CharSet) (i : Nat) :
    ((ofChars cs).before chars).testBit i = cs[i]?.any chars.contains := by
  rw [before_ofChars, Places.testBit_satisfying]

/-- Behind a character of the text there is one more place. -/
theorem succ_lt_of_testBit_before (chars : CharSet) (i : Nat)
    (hi : ((ofChars cs).before chars).testBit i) : i + 1 < cs.length + 1 := by
  rw [testBit_before_ofChars, Option.any_eq_true] at hi
  obtain ⟨c, hc, -⟩ := hi
  obtain ⟨hlt, -⟩ := List.getElem?_eq_some_iff.mp hc
  exact Nat.succ_lt_succ hlt

theorem neighbours_getElem? (i : Nat) : (ofChars cs).neighbours[i]? =
    if i ≤ cs.length then some ((cs.take i).getLast?, cs[i]?) else none := by
  have hbefore : (none :: cs.map some)[i]? =
      if i ≤ cs.length then some (cs.take i).getLast? else none := by
    cases i with
    | zero => simp
    | succ i =>
        by_cases hi : i < cs.length
        · simp [List.getLast?_take, Nat.succ_le_of_lt hi, hi]
        · rw [if_neg (Nat.not_le.mpr (Nat.lt_succ_of_le (Nat.le_of_not_lt hi)))]
          simp [hi]
  have hafter : (cs.map some ++ [none])[i]? = if i ≤ cs.length then some cs[i]? else none := by
    rcases Nat.lt_trichotomy i cs.length with hi | rfl | hi
    · rw [List.getElem?_append_left (by rwa [List.length_map])]
      simp [hi, Nat.le_of_lt hi]
    · simp
    · rw [if_neg (Nat.not_le.mpr hi)]
      exact List.getElem?_eq_none (by simpa using Nat.succ_le_of_lt hi)
  rw [neighbours, ofChars, List.zip, List.getElem?_zipWith, hbefore, hafter]
  by_cases hi : i ≤ cs.length <;> simp [hi]

theorem testBit_holding (condition : Look) (i : Nat) :
    ((ofChars cs).holding condition).testBit i ↔
      i ≤ cs.length ∧ condition.holds (cs.take i).getLast? cs[i]? := by
  rw [holding, Places.testBit_satisfying, neighbours_getElem?]
  by_cases hi : i ≤ cs.length <;> simp [hi]

end Ground

namespace Course

theorem takes_repeated {count : Nat} {course : Course} {related : Nat → Nat → Prop}
    (h : Takes count (course.advance count) related) (least : Nat) (most : Option Nat) :
    Takes count ((Course.repeated least most course).advance count) fun i j =>
      ∃ n, (∀ bound ∈ most, n ≤ bound - least) ∧ Times related (least + n) i j := by
  have hrounds := (h.repetition least (most.map (· - least))).unless_zero
  have hbound : ∀ n, (∀ bound ∈ most.map (· - least), n ≤ bound) ↔
      ∀ bound ∈ most, n ≤ bound - least := by
    simp
  simp only [hbound] at hrounds
  cases most <;> exact hrounds

theorem repetition_eq {course : Course} {most : Option Nat}
    (hstep : ∀ before, course = .step before → most ≠ none) (least : Nat) :
    Course.repetition least most course = .repeated least most course := by
  unfold repetition
  split
  case h_1 before => exact absurd rfl (hstep before rfl)
  case h_2 => rfl

end Course

namespace Node

variable (cs : List Char)

/-- Only a set becomes a step, so nothing else becomes a run when it is repeated. -/
theorem eq_set_of_over {node : Node} {before : Thunk Nat}
    (h : node.over (.ofChars cs) = .step before) : ∃ chars, node = .set chars := by
  cases node with
  | set chars => exact ⟨chars, rfl⟩
  | repeated least most body =>
      simp only [Node.over, Course.repetition] at h
      split at h <;> cases h
  | _ => cases h

theorem takes_set (chars : CharSet) :
    Takes (cs.length + 1) (((Node.set chars).over (.ofChars cs)).advance (cs.length + 1))
      ((Node.set chars).Spans cs) := by
  have hstep := Takes.step (Ground.succ_lt_of_testBit_before cs chars)
  refine hstep.unless_zero.congr fun i j _ => ?_
  rw [Ground.testBit_before_ofChars]
  rfl

/-- A set without a bound on its rounds is the least number of steps and then a run. -/
theorem takes_repeated_set (chars : CharSet) (least : Nat) :
    Takes (cs.length + 1)
      (((Node.repeated least none (.set chars)).over (.ofChars cs)).advance (cs.length + 1))
      ((Node.repeated least none (.set chars)).Spans cs) := by
  have hleast := Course.takes_repeated (takes_set cs chars) least (some least)
  have hmore := (Takes.run (Ground.succ_lt_of_testBit_before cs chars)).unless_zero
  refine (hleast.comp hmore).congr fun i j _ => ?_
  simp only [Ground.testBit_before_ofChars, Option.mem_some_iff, forall_eq', Nat.sub_self,
    Nat.le_zero_eq]
  constructor
  · rintro ⟨k, ⟨n, rfl, hfirst⟩, m, hrest⟩
    exact ⟨m, by simp, (times_add least m i j).mpr ⟨k, hfirst, hrest⟩⟩
  · rintro ⟨m, -, htimes⟩
    obtain ⟨k, hfirst, hrest⟩ := (times_add least m i j).mp htimes
    exact ⟨k, ⟨0, rfl, hfirst⟩, m, hrest⟩

/-- The search goes from a set of places to just those where the pattern may end. -/
theorem takes_over (node : Node) :
    Takes (cs.length + 1) ((node.over (.ofChars cs)).advance (cs.length + 1)) (node.Spans cs) := by
  induction node with
  | empty => exact Takes.identity
  | set chars => exact takes_set cs chars
  | look condition =>
      refine Takes.look.unless_zero.congr fun i j _ => ?_
      exact and_congr_left fun _ => Ground.testBit_holding cs condition i
  | sequence first second hfirst hsecond => exact hfirst.comp hsecond
  | either left right hleft hright => exact hleft.union hright
  | repeated least most body hbody =>
      by_cases hrun : ∃ chars, body = .set chars ∧ most = none
      · obtain ⟨chars, rfl, rfl⟩ := hrun
        exact takes_repeated_set cs chars least
      · have hrepeated := Course.takes_repeated hbody least most
        rw [← Course.repetition_eq] at hrepeated
        · exact hrepeated
        · intro before hstep hnone
          obtain ⟨chars, rfl⟩ := eq_set_of_over cs hstep
          exact hrun ⟨chars, rfl, hnone⟩

end Node

/-! ## Matches -/

theorem testBit_allPlaces (cs : List Char) (i : Nat) :
    (allPlaces cs).testBit i ↔ i < cs.length + 1 := by
  rw [allPlaces]
  exact (Nat.testBit_two_pow_sub_one (cs.length + 1) i).symm ▸ decide_eq_true_iff

theorem ne_zero_iff_exists_testBit (places : Nat) : places ≠ 0 ↔ ∃ i, places.testBit i :=
  ⟨Nat.exists_testBit_of_ne_zero, fun ⟨i, hi⟩ hzero => by simp [hzero] at hi⟩

/-- A pattern is found in a text just when it spans any two places of it. -/
theorem isMatch_iff (pattern : Pattern) (s : String) :
    pattern.isMatch s ↔ ∃ i j, i ≤ s.toList.length ∧ pattern.node.Spans s.toList i j := by
  have hall : Within (s.toList.length + 1) (allPlaces s.toList) := fun i hi =>
    (testBit_allPlaces _ i).mp hi
  simp only [isMatch, Node.matchesWithin, bne_iff_ne, ne_zero_iff_exists_testBit,
    (pattern.node.takes_over s.toList).testBit_iff _ hall, testBit_allPlaces, Nat.lt_succ_iff]
  exact exists_comm

end SheetImport.Pattern
