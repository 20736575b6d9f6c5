import Mathlib.Data.List.Pairwise
import Mathlib.Tactic.SplitIfs
import SheetImport.Proofs.Text.Letters
import SheetImport.Text.Lowercase

/-!
# Text in lower case

Lower-cased text has no capital letter of ASCII, and nothing is left of text only if there was none.
What a text becomes can also be said by rules, character by character, for which the characters
around a sigma matter.
-/

namespace SheetImport.Text

set_option maxRecDepth 10000 in
/-- Every mapping leads behind the capital letters of ASCII. -/
theorem lt_image_of_mem_lowerRuns : ∀ run ∈ lowerRuns, (0x5a : Int) < run.first + run.offset := by
  decide

theorem exists_run_of_isUpper {c : Char} (h : c.isUpper) :
    ∃ run ∈ lowerRuns, run.covers c.toNat := by
  refine ⟨⟨0x41, 0x5a, 1, 32⟩, List.mem_cons_self, ?_⟩
  simpa [CaseRun.covers, Nat.mod_one] using isUpper_iff.mp h

theorem not_isUpper_ofNat {n : Nat} (h : 0x5a < n) : ¬(Char.ofNat n).isUpper := by
  -- A number that is no code point stands for the one of number zero.
  have hnat : (Char.ofNat n).toNat = n ∨ (Char.ofNat n).toNat = 0 := by
    by_cases hvalid : n.isValidChar
    · exact .inl (congrArg Char.toNat (dif_pos hvalid))
    · exact .inr (congrArg Char.toNat (dif_neg hvalid))
  rw [isUpper_iff]
  omega

theorem not_isUpper_lowerChar (c : Char) : ¬(lowerChar c).isUpper := by
  rw [lowerChar]
  split
  case h_1 run hrun =>
    have himage := lt_image_of_mem_lowerRuns run (List.mem_of_find?_eq_some hrun)
    have hcovers : run.first ≤ c.toNat := by
      have := List.find?_some hrun
      simp only [CaseRun.covers, Bool.and_eq_true, decide_eq_true_eq] at this
      exact this.1.1
    apply not_isUpper_ofNat
    omega
  case h_2 hnone =>
    intro hupper
    obtain ⟨run, hrun, hcovers⟩ := exists_run_of_isUpper hupper
    exact List.find?_eq_none.mp hnone run hrun hcovers

theorem not_isUpper_of_mem_lowerAfter {before cs : List Char} {c : Char}
    (h : c ∈ lowerAfter before cs) : ¬c.isUpper := by
  induction cs generalizing before with
  | nil => simp [lowerAfter] at h
  | cons d rest ih =>
      rw [lowerAfter, List.mem_append] at h
      rcases h with hlowered | hlater
      · split_ifs at hlowered
        · rw [List.mem_singleton.mp hlowered]
          decide
        · rw [List.mem_singleton.mp hlowered]
          decide
        · simp only [List.mem_cons, List.not_mem_nil, or_false] at hlowered
          rcases hlowered with rfl | rfl <;> decide
        · rw [List.mem_singleton.mp hlowered]
          exact not_isUpper_lowerChar d
      · exact ih hlater

theorem not_isUpper_of_mem_lowercase {s : String} {c : Char} (h : c ∈ (lowercase s).toList) :
    ¬c.isUpper := by
  rw [lowercase, String.toList_ofList] at h
  exact not_isUpper_of_mem_lowerAfter h

theorem lowerAfter_eq_nil_iff {before cs : List Char} : lowerAfter before cs = [] ↔ cs = [] := by
  cases cs with
  | nil => simp [lowerAfter]
  | cons c rest =>
      rw [lowerAfter]
      split_ifs <;> simp

theorem lowercase_eq_empty_iff {s : String} : lowercase s = "" ↔ s = "" := by
  rw [lowercase, String.ofList_eq_empty_iff, lowerAfter_eq_nil_iff, String.toList_eq_nil_iff]

/-! ## Lower case by rules -/

/-- Whether a run of mappings has one for a code point. -/
def CaseRun.Maps (run : CaseRun) (n : Nat) : Prop :=
  run.first ≤ n ∧ n ≤ run.last ∧ (n - run.first) % run.step = 0

theorem CaseRun.covers_iff {run : CaseRun} {n : Nat} : run.covers n ↔ run.Maps n := by
  simp [covers, Maps, and_assoc]

set_option maxRecDepth 10000 in
theorem isChain_lowerRuns :
    lowerRuns.IsChain fun run next => run.last < next.first ∧ next.first ≤ next.last := by
  decide

/-- No code point has mappings in two runs. -/
theorem eq_of_maps {run other : CaseRun} (hrun : run ∈ lowerRuns) (hother : other ∈ lowerRuns)
    {n : Nat} (hmaps : run.Maps n) (hmaps' : other.Maps n) : run = other := by
  have htrans : IsTrans CaseRun fun run next => run.last < next.first ∧ next.first ≤ next.last :=
    ⟨fun _ _ _ hfirst hsecond => ⟨by omega, hsecond.2⟩⟩
  have hsymm : Std.Symm fun run next : CaseRun => ¬(run.Maps n ∧ next.Maps n) :=
    ⟨fun _ _ hapart hboth => hapart hboth.symm⟩
  have hapart : lowerRuns.Pairwise fun run next => ¬(run.Maps n ∧ next.Maps n) := by
    refine (List.isChain_iff_pairwise.mp isChain_lowerRuns).imp ?_
    rintro run next ⟨hbefore, -⟩ ⟨⟨-, hlast, -⟩, hfirst, -⟩
    omega
  by_contra hne
  exact hapart.forall hrun hother hne ⟨hmaps, hmaps'⟩

/-- The simple mapping of a character: the one in the table, or else the character itself. -/
inductive LowersSimply (c : Char) : Char → Prop
  | mapped {run : CaseRun} (hrun : run ∈ lowerRuns) (hmaps : run.Maps c.toNat) :
      LowersSimply c (Char.ofNat ((c.toNat : Int) + run.offset).toNat)
  | same (hnone : ∀ run ∈ lowerRuns, ¬run.Maps c.toNat) : LowersSimply c c

theorem lowersSimply_iff {c d : Char} : LowersSimply c d ↔ d = lowerChar c := by
  rw [lowerChar]
  cases hfind : lowerRuns.find? (·.covers c.toNat) with
  | some run =>
      have hrun := List.mem_of_find?_eq_some hfind
      have hcovers : run.covers c.toNat :=
        List.find?_some (p := fun run : CaseRun => run.covers c.toNat) hfind
      have hmaps := CaseRun.covers_iff.mp hcovers
      constructor
      · rintro (⟨hother, hmaps'⟩ | hnone)
        · rw [eq_of_maps hother hrun hmaps' hmaps]
        · exact absurd hmaps (hnone run hrun)
      · rintro rfl
        exact .mapped hrun hmaps
  | none =>
      have hnone : ∀ run ∈ lowerRuns, ¬run.Maps c.toNat := fun run hrun hmaps =>
        List.find?_eq_none.mp hfind run hrun (CaseRun.covers_iff.mpr hmaps)
      constructor
      · rintro (⟨hrun, hmaps⟩ | -)
        · exact absurd hmaps (hnone _ hrun)
        · rfl
      · rintro rfl
        exact .same hnone

/-- Whether a character decides about the form of a sigma before or behind it. -/
def IsDecisive (c : Char) : Prop :=
  ¬caseIgnorable.contains c

/-- Whether the first decisive character of some text is a cased letter. -/
def BeginsCased (cs : List Char) : Prop :=
  ∃ passed c rest, cs = passed ++ c :: rest ∧ (∀ d ∈ passed, ¬IsDecisive d) ∧ IsDecisive c ∧
    casedLetters.contains c

/-- Whether the last decisive character of some text is a cased letter. -/
def EndsCased (cs : List Char) : Prop :=
  ∃ start c passed, cs = start ++ c :: passed ∧ (∀ d ∈ passed, ¬IsDecisive d) ∧ IsDecisive c ∧
    casedLetters.contains c

theorem beginsCased_iff {cs : List Char} : BeginsCased cs ↔ casedFirst cs := by
  rw [casedFirst]
  constructor
  · rintro ⟨passed, c, rest, rfl, hpassed, hdecisive, hcased⟩
    rw [List.dropWhile_append_of_pos fun d hd => not_not.mp (hpassed d hd),
      List.dropWhile_cons_of_neg hdecisive]
    exact hcased
  · intro h
    split at h
    case h_1 c rest hdrop =>
      have hdecisive := List.head?_dropWhile_not caseIgnorable.contains cs
      rw [hdrop] at hdecisive
      refine ⟨cs.takeWhile caseIgnorable.contains, c, rest, ?_, fun d hd => ?_, ?_, h⟩
      · rw [← hdrop, List.takeWhile_append_dropWhile]
      · exact not_not.mpr (List.all_eq_true.mp (List.all_takeWhile) d hd)
      · simpa [IsDecisive] using hdecisive
    case h_2 => cases h

theorem endsCased_iff {cs : List Char} : EndsCased cs ↔ BeginsCased cs.reverse := by
  constructor
  · rintro ⟨start, c, passed, rfl, hpassed, hc⟩
    exact ⟨passed.reverse, c, start.reverse, by simp, by simpa using hpassed, hc⟩
  · rintro ⟨passed, c, rest, hcs, hpassed, hc⟩
    refine ⟨rest.reverse, c, passed.reverse, ?_, by simpa using hpassed, hc⟩
    rw [← List.reverse_reverse cs, hcs]
    simp

/-- What a character between others becomes.  A capital sigma that ends a word has a form of its
own, and a capital I with a dot becomes two characters. -/
inductive LowersBetween (before after : List Char) : Char → List Char → Prop
  | finalSigma (hbefore : EndsCased before) (hafter : ¬BeginsCased after) :
      LowersBetween before after 'Σ' ['ς']
  | sigma (hwithin : EndsCased before → BeginsCased after) : LowersBetween before after 'Σ' ['σ']
  | dotted : LowersBetween before after 'İ' ['i', '\u0307']
  | simple {c d : Char} (hsigma : c ≠ 'Σ') (hdotted : c ≠ 'İ') (hlowers : LowersSimply c d) :
      LowersBetween before after c [d]

/-- What text behind other text becomes, character by character. -/
inductive LowersBehind : List Char → List Char → List Char → Prop
  | nil {before : List Char} : LowersBehind before [] []
  | cons {before rest lowered more : List Char} {c : Char}
      (hfirst : LowersBetween before rest c lowered)
      (hrest : LowersBehind (before ++ [c]) rest more) :
      LowersBehind before (c :: rest) (lowered ++ more)

/-- Whether a text is another one in lower case. -/
def Lowers (s t : String) : Prop :=
  LowersBehind [] s.toList t.toList

theorem isFinalSigma_reverse_iff {before after : List Char} :
    isFinalSigma before.reverse after ↔ EndsCased before ∧ ¬BeginsCased after := by
  rw [isFinalSigma, Bool.and_eq_true, Bool.not_eq_true', endsCased_iff, beginsCased_iff,
    beginsCased_iff, Bool.not_eq_true]

theorem lowersBetween_iff {before after lowered : List Char} {c : Char} :
    LowersBetween before after c lowered ↔
      lowered = if c = 'Σ' then (if isFinalSigma before.reverse after then ['ς'] else ['σ'])
        else if c = 'İ' then ['i', '\u0307'] else [lowerChar c] := by
  constructor
  · rintro (⟨hbefore, hafter⟩ | hwithin | _ | ⟨hsigma, hdotted, hlowers⟩)
    · rw [if_pos rfl, if_pos (isFinalSigma_reverse_iff.mpr ⟨hbefore, hafter⟩)]
    · rw [if_pos rfl, if_neg]
      intro hfinal
      obtain ⟨hbefore, hafter⟩ := isFinalSigma_reverse_iff.mp hfinal
      exact hafter (hwithin hbefore)
    · rfl
    · rw [if_neg hsigma, if_neg hdotted, lowersSimply_iff.mp hlowers]
  · rintro rfl
    split_ifs with hsigma hfinal hdotted
    · subst hsigma
      obtain ⟨hbefore, hafter⟩ := isFinalSigma_reverse_iff.mp hfinal
      exact .finalSigma hbefore hafter
    · subst hsigma
      rw [isFinalSigma_reverse_iff, not_and_not_right] at hfinal
      exact .sigma hfinal
    · subst hdotted
      exact .dotted
    · exact .simple hsigma hdotted (lowersSimply_iff.mpr rfl)

theorem lowersBehind_iff {before cs lowered : List Char} :
    LowersBehind before cs lowered ↔ lowered = lowerAfter before.reverse cs := by
  induction cs generalizing before lowered with
  | nil => exact ⟨by rintro ⟨⟩; rfl, by rintro rfl; exact .nil⟩
  | cons c rest ih =>
      have hbefore : c :: before.reverse = (before ++ [c]).reverse := by simp
      rw [lowerAfter, hbefore]
      constructor
      · rintro (_ | ⟨hfirst, hrest⟩)
        rw [lowersBetween_iff.mp hfirst, ih.mp hrest]
      · rintro rfl
        exact .cons (lowersBetween_iff.mpr rfl) (ih.mpr rfl)

/-- The rules for lower case fix what a text becomes. -/
theorem lowers_iff {s t : String} : Lowers s t ↔ t = lowercase s := by
  rw [Lowers, lowersBehind_iff, lowercase, List.reverse_nil, ← String.toList_inj,
    String.toList_ofList]

end SheetImport.Text
