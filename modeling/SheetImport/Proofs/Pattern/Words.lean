import SheetImport.Proofs.Pattern.Matching
import SheetImport.Proofs.Text.Letters

/-!
# The words of a pattern

A pattern without conditions cannot tell where in a text it stands.  It has a set of words, and it is
found in a text just when one of its words stands anywhere in it.
-/

namespace SheetImport.Pattern

/-- Whether the characters from one place of a text to another are that word. -/
def Reads (cs : List Char) (i : Nat) (word : List Char) (j : Nat) : Prop :=
  word <+: cs.drop i ∧ j = i + word.length

section Reads

variable {cs : List Char}

theorem reads_nil (i j : Nat) : Reads cs i [] j ↔ i = j := by
  simp [Reads, eq_comm]

theorem reads_singleton (i j : Nat) (c : Char) : Reads cs i [c] j ↔ cs[i]? = some c ∧ j = i + 1 := by
  rw [Reads, List.singleton_prefix_iff_head?_eq_some, List.head?_drop]
  rfl

theorem reads_append (i j : Nat) (first second : List Char) :
    Reads cs i (first ++ second) j ↔ ∃ k, Reads cs i first k ∧ Reads cs k second j := by
  constructor
  · rintro ⟨⟨rest, hrest⟩, rfl⟩
    rw [List.append_assoc] at hrest
    refine ⟨_, ⟨⟨_, hrest⟩, rfl⟩, ⟨rest, ?_⟩, ?_⟩
    · rw [← List.drop_drop, ← hrest, List.drop_left]
    · rw [List.length_append, Nat.add_assoc]
  · rintro ⟨_, ⟨⟨rest, hrest⟩, rfl⟩, ⟨behind, hbehind⟩, rfl⟩
    rw [← List.drop_drop, ← hrest, List.drop_left] at hbehind
    refine ⟨⟨behind, ?_⟩, ?_⟩
    · rw [List.append_assoc, hbehind, hrest]
    · rw [List.length_append, Nat.add_assoc]

/-- A word stands at a place just when the text can be parted there. -/
theorem exists_reads_iff (word : List Char) :
    (∃ i j, i ≤ cs.length ∧ Reads cs i word j) ↔ ∃ before after, cs = before ++ (word ++ after) := by
  constructor
  · rintro ⟨i, j, -, ⟨after, hafter⟩, -⟩
    exact ⟨cs.take i, after, by rw [hafter, List.take_append_drop]⟩
  · rintro ⟨before, after, rfl⟩
    refine ⟨before.length, _, ?_, ⟨after, by rw [List.drop_left]⟩, rfl⟩
    rw [List.length_append]
    exact Nat.le_add_right _ _

end Reads

namespace CharSet

/-- The letters from A to Z in both cases. -/
def letters : CharSet :=
  ⟨[⟨'A', 'Z'⟩, ⟨'a', 'z'⟩]⟩

theorem contains_letters (c : Char) : letters.contains c ↔ c.isAlpha := by
  rw [Text.isAlpha_iff, Text.isUpper_iff, Text.isLower_iff]
  simp only [contains, letters, List.any_cons, List.any_nil, CharRange.contains,
    Bool.or_false, Bool.or_eq_true, Bool.and_eq_true, decide_eq_true_eq]
  rfl

theorem contains_single (c d : Char) : (single c).contains d ↔ d = c := by
  simp only [contains, single, List.any_cons, List.any_nil, Bool.or_false, CharRange.contains,
    Bool.and_eq_true, decide_eq_true_eq]
  exact ⟨fun h => Char.le_antisymm h.2 h.1, fun h => h ▸ ⟨Char.le_refl _, Char.le_refl _⟩⟩

end CharSet

namespace Node

/-- Whether there are no conditions in a pattern. -/
def isPlain : Node → Bool
  | .empty => true
  | .set _ => true
  | .look _ => false
  | .sequence first second => first.isPlain && second.isPlain
  | .either left right => left.isPlain && right.isPlain
  | .repeated _ _ body => body.isPlain

/-- The words of a pattern.  A condition has none, since what it asks for is not in the word. -/
def HasWord : Node → List Char → Prop
  | .empty, word => word = []
  | .set chars, word => ∃ c, word = [c] ∧ chars.contains c
  | .look _, _ => False
  | .sequence first second, word => ∃ u v, word = u ++ v ∧ first.HasWord u ∧ second.HasWord v
  | .either left right, word => left.HasWord word ∨ right.HasWord word
  | .repeated least most body, word =>
      ∃ parts : List (List Char), least ≤ parts.length ∧
        (∀ bound ∈ most, parts.length ≤ least + (bound - least)) ∧
        (∀ part ∈ parts, body.HasWord part) ∧ word = parts.flatten

/-- Rounds of a repetition are words of its body, one behind the other. -/
theorem times_iff_exists_parts {cs : List Char} {spans : Nat → Nat → Prop}
    {hasWord : List Char → Prop}
    (hspans : ∀ i j, spans i j ↔ ∃ word, hasWord word ∧ Reads cs i word j) (n i j : Nat) :
    Times spans n i j ↔ ∃ parts : List (List Char),
      parts.length = n ∧ (∀ part ∈ parts, hasWord part) ∧ Reads cs i parts.flatten j := by
  induction n generalizing i with
  | zero => simp [Times, reads_nil]
  | succ n ih =>
      simp only [Times, hspans, ih]
      constructor
      · rintro ⟨k, ⟨word, hword, hfirst⟩, parts, hlength, hparts, hrest⟩
        refine ⟨word :: parts, congrArg Nat.succ hlength, List.forall_mem_cons.mpr ⟨hword, hparts⟩, ?_⟩
        rw [List.flatten_cons, reads_append]
        exact ⟨k, hfirst, hrest⟩
      · rintro ⟨parts, hlength, hparts, hreads⟩
        obtain ⟨word, parts, rfl⟩ := List.exists_cons_of_length_eq_add_one hlength
        obtain ⟨hword, hparts⟩ := List.forall_mem_cons.mp hparts
        obtain ⟨k, hfirst, hrest⟩ := (reads_append i j _ _).mp hreads
        exact ⟨k, ⟨word, hword, hfirst⟩, parts, Nat.succ.inj hlength, hparts, hrest⟩

/-- A pattern without conditions spans the places between which one of its words stands. -/
theorem spans_iff_hasWord {node : Node} (hplain : node.isPlain) (cs : List Char) (i j : Nat) :
    node.Spans cs i j ↔ ∃ word, node.HasWord word ∧ Reads cs i word j := by
  induction node generalizing i j with
  | empty => simp [Spans, HasWord, reads_nil]
  | set chars =>
      simp only [Spans, HasWord, Option.any_eq_true]
      constructor
      · rintro ⟨⟨c, hc, hchars⟩, rfl⟩
        exact ⟨[c], ⟨c, rfl, hchars⟩, (reads_singleton i _ c).mpr ⟨hc, rfl⟩⟩
      · rintro ⟨_, ⟨c, rfl, hchars⟩, hreads⟩
        obtain ⟨hc, rfl⟩ := (reads_singleton i j c).mp hreads
        exact ⟨⟨c, hc, hchars⟩, rfl⟩
  | look condition => cases hplain
  | sequence first second hfirst hsecond =>
      obtain ⟨hplain₁, hplain₂⟩ := (Bool.and_eq_true _ _).mp hplain
      simp only [Spans, HasWord, hfirst hplain₁, hsecond hplain₂]
      constructor
      · rintro ⟨k, ⟨u, hu, hbefore⟩, v, hv, hbehind⟩
        exact ⟨u ++ v, ⟨u, v, rfl, hu, hv⟩, (reads_append i j u v).mpr ⟨k, hbefore, hbehind⟩⟩
      · rintro ⟨_, ⟨u, v, rfl, hu, hv⟩, hreads⟩
        obtain ⟨k, hbefore, hbehind⟩ := (reads_append i j u v).mp hreads
        exact ⟨k, ⟨u, hu, hbefore⟩, v, hv, hbehind⟩
  | either left right hleft hright =>
      obtain ⟨hplain₁, hplain₂⟩ := (Bool.and_eq_true _ _).mp hplain
      simp only [Spans, HasWord, hleft hplain₁, hright hplain₂, or_and_right, exists_or]
  | repeated least most body hbody =>
      simp only [Spans, HasWord, times_iff_exists_parts (hbody hplain)]
      constructor
      · rintro ⟨n, hn, parts, hlength, hparts, hreads⟩
        refine ⟨_, ⟨parts, by omega, fun bound hbound => ?_, hparts, rfl⟩, hreads⟩
        have := hn bound hbound
        omega
      · rintro ⟨_, ⟨parts, hleast, hmost, hparts, rfl⟩, hreads⟩
        refine ⟨parts.length - least, fun bound hbound => ?_, parts, by omega, hparts, hreads⟩
        have := hmost bound hbound
        omega

/-! ## Words of some patterns -/

/-- Sets in a row have the words with a character of each. -/
theorem hasWord_foldl_sets (node : Node) (sets : List CharSet) (word : List Char) :
    (sets.foldl (fun node chars => .sequence node (.set chars)) node).HasWord word ↔
      ∃ u v, word = u ++ v ∧ node.HasWord u ∧
        List.Forall₂ (fun c chars => CharSet.contains chars c) v sets := by
  induction sets generalizing node with
  | nil => simp
  | cons chars rest ih =>
      rw [List.foldl_cons, ih]
      constructor
      · rintro ⟨_, v, rfl, ⟨u, _, rfl, hu, c, rfl, hc⟩, hrest⟩
        exact ⟨u, c :: v, by simp, hu, .cons hc hrest⟩
      · rintro ⟨u, _, rfl, hu, _ | ⟨hc, hrest⟩⟩
        exact ⟨_, _, by simp, ⟨u, _, rfl, hu, _, rfl, hc⟩, hrest⟩

/-- A pattern with a text behind it. -/
def thenText (node : Node) (text : String) : Node :=
  (text.toList.map CharSet.single).foldl (fun node chars => .sequence node (.set chars)) node

theorem hasWord_thenText (node : Node) (text : String) (word : List Char) :
    (node.thenText text).HasWord word ↔ ∃ u, word = u ++ text.toList ∧ node.HasWord u := by
  have htext (v : List Char) : v = text.toList ↔
      List.Forall₂ (fun c chars => CharSet.contains chars c) v
        (text.toList.map CharSet.single) := by
    simp only [List.forall₂_map_right_iff, CharSet.contains_single, List.forall₂_eq_eq_eq]
  simp only [thenText, hasWord_foldl_sets, ← htext]
  constructor
  · rintro ⟨u, _, rfl, hu, rfl⟩
    exact ⟨u, rfl, hu⟩
  · rintro ⟨u, rfl, hu⟩
    exact ⟨u, _, rfl, hu, rfl⟩

/-- The words of a set in a row are one list of characters. -/
theorem exists_eq_map_of_hasWord_set {chars : CharSet} {parts : List (List Char)}
    (hparts : ∀ part ∈ parts, (Node.set chars).HasWord part) :
    ∃ word : List Char, parts = word.map (fun c => [c]) ∧ ∀ c ∈ word, chars.contains c := by
  induction parts with
  | nil => exact ⟨[], rfl, by simp⟩
  | cons part rest ih =>
      obtain ⟨⟨c, rfl, hc⟩, hrest⟩ := List.forall_mem_cons.mp hparts
      obtain ⟨word, rfl, hword⟩ := ih hrest
      exact ⟨c :: word, rfl, List.forall_mem_cons.mpr ⟨hc, hword⟩⟩

theorem hasWord_repeated_set (least : Nat) (most : Option Nat) (chars : CharSet)
    (word : List Char) : (Node.repeated least most (.set chars)).HasWord word ↔
      least ≤ word.length ∧ (∀ bound ∈ most, word.length ≤ least + (bound - least)) ∧
        ∀ c ∈ word, chars.contains c := by
  have hflatten (word : List Char) : (word.map fun c => [c]).flatten = word :=
    List.flatMap_def.symm.trans (List.flatMap_singleton' word)
  constructor
  · rintro ⟨parts, hleast, hmost, hparts, rfl⟩
    obtain ⟨word, rfl, hword⟩ := exists_eq_map_of_hasWord_set hparts
    rw [List.length_map] at hleast hmost
    rw [hflatten]
    exact ⟨hleast, hmost, hword⟩
  · rintro ⟨hleast, hmost, hchars⟩
    refine ⟨word.map fun c => [c], by rwa [List.length_map], by rwa [List.length_map], ?_,
      (hflatten word).symm⟩
    intro part hpart
    obtain ⟨c, hc, rfl⟩ := List.mem_map.mp hpart
    exact ⟨c, rfl, hchars c hc⟩

theorem hasWord_anyNumber (chars : CharSet) (word : List Char) :
    (Node.repeated 0 none (.set chars)).HasWord word ↔ ∀ c ∈ word, chars.contains c := by
  rw [hasWord_repeated_set]
  simp

theorem hasWord_atLeastOne (chars : CharSet) (word : List Char) :
    (Node.repeated 1 none (.set chars)).HasWord word ↔
      word ≠ [] ∧ ∀ c ∈ word, chars.contains c := by
  rw [hasWord_repeated_set, Nat.one_le_iff_ne_zero, Ne, List.length_eq_zero_iff]
  simp

end Node

/-! ## Matches -/

/-- A pattern without conditions is found in a text just when one of its words stands in it. -/
theorem isMatch_iff_hasWord {pattern : Pattern} (hplain : pattern.node.isPlain) (s : String) :
    pattern.isMatch s ↔ ∃ before word after,
      s.toList = before ++ (word ++ after) ∧ pattern.node.HasWord word := by
  rw [isMatch_iff]
  simp only [Node.spans_iff_hasWord hplain]
  constructor
  · rintro ⟨i, j, hi, word, hword, hreads⟩
    obtain ⟨before, after, hparts⟩ := (exists_reads_iff word).mp ⟨i, j, hi, hreads⟩
    exact ⟨before, word, after, hparts, hword⟩
  · rintro ⟨before, word, after, hparts, hword⟩
    obtain ⟨i, j, hi, hreads⟩ := (exists_reads_iff word).mpr ⟨before, after, hparts⟩
    exact ⟨i, j, hi, word, hword, hreads⟩

end SheetImport.Pattern
