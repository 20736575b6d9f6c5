import SheetImport.Proofs.ClassFeatures.Markers
import SheetImport.Proofs.ClassFeatures.SummaryClass
import SheetImport.Proofs.Pattern.Words

/-!
# Marks as matches of their patterns

The marks of a class features summary are read without their patterns.  Here the patterns are laid
beside the readers: from each place of a text a mark is read just when its pattern matches from there,
and the mark takes what the match takes.  No two matches of one of these patterns begin at the same
place, so it does not matter which of several a search would prefer.
-/

namespace SheetImport

open Pattern

namespace Pattern

/-! ## Sets of characters -/

namespace CharSet

def digits : CharSet :=
  ⟨[⟨'0', '9'⟩]⟩

def nonDigits : CharSet :=
  ⟨[⟨'\x00', '/'⟩, ⟨':', lastChar⟩]⟩

def blanks : CharSet :=
  ⟨[⟨'\t', '\r'⟩, ⟨' ', ' '⟩]⟩

/-- The characters that level markers begin with. -/
def openings : CharSet :=
  ⟨[⟨'(', '('⟩, ⟨',', ','⟩]⟩

/-- The letters from A to Z in both cases, and the space. -/
def lettersAndSpace : CharSet :=
  ⟨[⟨' ', ' '⟩, ⟨'A', 'Z'⟩, ⟨'a', 'z'⟩]⟩

theorem contains_cons (range : CharRange) (ranges : List CharRange) (c : Char) :
    contains ⟨range :: ranges⟩ c ↔
      (range.first.toNat ≤ c.toNat ∧ c.toNat ≤ range.last.toNat) ∨ contains ⟨ranges⟩ c := by
  rw [contains, List.any_cons, Bool.or_eq_true, CharRange.contains, Bool.and_eq_true,
    decide_eq_true_iff, decide_eq_true_iff]
  rfl

theorem not_contains_nil (c : Char) : ¬contains ⟨[]⟩ c :=
  Bool.false_ne_true

theorem contains_digits (c : Char) : digits.contains c ↔ c.isDigit := by
  rw [digits, contains_cons, or_iff_left (not_contains_nil c), Char.isDigit_iff_toNat]

theorem contains_nonDigits (c : Char) : nonDigits.contains c ↔ ¬c.isDigit := by
  have hlast : lastChar.toNat = 0x10ffff := rfl
  have hfirst : '\x00'.toNat = 0 := rfl
  have hbelow : '/'.toNat = 0x2f := rfl
  have habove : ':'.toNat = 0x3a := rfl
  have hdigits : '0'.toNat = 0x30 ∧ '9'.toNat = 0x39 := ⟨rfl, rfl⟩
  have hrange : c.toNat < 0x110000 := by
    rcases c.valid with hvalid | ⟨-, hvalid⟩
    · exact Nat.lt_trans hvalid (by decide)
    · exact hvalid
  rw [nonDigits, contains_cons, contains_cons, or_iff_left (not_contains_nil c),
    Char.isDigit_iff_toNat, hlast, hfirst, hbelow, habove, hdigits.1, hdigits.2]
  omega

theorem contains_blanks (c : Char) : blanks.contains c ↔ ClassFeatures.isBlank c := by
  rw [blanks, contains_cons, ← single, contains_single, ClassFeatures.isBlank, Bool.or_eq_true,
    beq_iff_eq, Bool.and_eq_true, decide_eq_true_iff, decide_eq_true_iff, or_comm]
  rfl

theorem contains_openings (c : Char) : openings.contains c ↔ c = '(' ∨ c = ',' := by
  rw [openings, contains_cons, ← single, contains_single, ← contains_single '(', single,
    contains_cons, or_iff_left (not_contains_nil c)]

theorem contains_lettersAndSpace (c : Char) :
    lettersAndSpace.contains c ↔ c.isAlpha ∨ c = ' ' := by
  rw [lettersAndSpace, contains_cons, ← letters, contains_letters, ← contains_single, single,
    contains_cons, or_iff_left (not_contains_nil c), or_comm]

end CharSet

/-! ## Matches from a place -/

/-- A pattern without conditions matches from a place of a text just the words that follow there. -/
theorem Node.spans_length_iff {node : Node} (hplain : node.isPlain) (before rest : List Char)
    (j : Nat) : node.Spans (before ++ rest) before.length j ↔
      ∃ word after, rest = word ++ after ∧ node.HasWord word ∧ j = before.length + word.length := by
  rw [spans_iff_hasWord hplain]
  constructor
  · rintro ⟨word, hword, ⟨after, hafter⟩, rfl⟩
    rw [List.drop_left] at hafter
    exact ⟨word, after, hafter.symm, hword, rfl⟩
  · rintro ⟨word, after, rfl, hword, rfl⟩
    exact ⟨word, hword, ⟨after, by rw [List.drop_left]⟩, rfl⟩

theorem Node.spans_sequence_look (cs : List Char) (node : Node) (condition : Look) (i j : Nat) :
    (Node.sequence node (.look condition)).Spans cs i j ↔
      node.Spans cs i j ∧ j ≤ cs.length ∧ condition.holds (cs.take j).getLast? cs[j]? := by
  constructor
  · rintro ⟨k, hspans, hlook, rfl⟩
    exact ⟨hspans, hlook⟩
  · rintro ⟨hspans, hlook⟩
    exact ⟨j, hspans, hlook, rfl⟩

/-- Behind a character of a word there is a word boundary just when the word goes no further. -/
theorem Look.holds_wordBoundary_iff {word : List Char} (hword : ∃ c ∈ word.getLast?, isWord c)
    (before after : List Char) :
    Look.wordBoundary.holds
        ((before ++ (word ++ after)).take (before.length + word.length)).getLast?
        (before ++ (word ++ after))[before.length + word.length]? ↔
      ∀ c ∈ after.head?, ¬isWord c := by
  obtain ⟨last, hlast, hchar⟩ := hword
  have htake : (before ++ (word ++ after)).take (before.length + word.length) = before ++ word := by
    rw [← List.append_assoc, ← List.length_append, List.take_left]
  have hnext : (before ++ (word ++ after))[before.length + word.length]? = after.head? := by
    rw [← List.append_assoc, ← List.length_append, List.getElem?_append_right le_rfl, Nat.sub_self,
      List.head?_eq_getElem?]
  have hbefore : (before ++ word).getLast? = some last := by
    rw [List.getLast?_append, hlast, Option.some_or]
  rw [htake, hnext, hbefore, holds]
  cases after.head? <;> simp [hchar]

end Pattern

namespace ClassFeatures

/-- Whether a reader finds a mark just where a pattern matches, and takes what the match takes. -/
def Follows {α : Type} (mark? : List Char → Option (α × Nat)) (pattern : Pattern) : Prop :=
  ∀ before rest j, pattern.node.Spans (before ++ rest) before.length j ↔
    ∃ mark length, mark? rest = some (mark, length) ∧ j = before.length + length

theorem Follows.unique {α : Type} {mark? : List Char → Option (α × Nat)} {pattern : Pattern}
    (h : Follows mark? pattern) {before rest : List Char} {j k : Nat}
    (hj : pattern.node.Spans (before ++ rest) before.length j)
    (hk : pattern.node.Spans (before ++ rest) before.length k) : j = k := by
  obtain ⟨mark, length, hmark, rfl⟩ := (h before rest j).mp hj
  obtain ⟨other, otherLength, hother, rfl⟩ := (h before rest k).mp hk
  cases hmark.symm.trans hother
  rfl

/-- The pattern is found in a text just where there is a mark. -/
theorem Follows.isMatch_iff {α : Type} {mark? : List Char → Option (α × Nat)} {pattern : Pattern}
    (h : Follows mark? pattern) (text : String) : pattern.isMatch text ↔
      ∃ before rest, text.toList = before ++ rest ∧ (mark? rest).isSome := by
  rw [Pattern.isMatch_iff]
  constructor
  · rintro ⟨i, j, hi, hspans⟩
    obtain ⟨before, rest, htext, rfl⟩ :
        ∃ before rest, text.toList = before ++ rest ∧ before.length = i :=
      ⟨_, _, (List.take_append_drop i _).symm, List.length_take_of_le hi⟩
    rw [htext] at hspans
    obtain ⟨mark, length, hmark, -⟩ := (h before rest j).mp hspans
    exact ⟨before, rest, htext, by rw [hmark]; rfl⟩
  · rintro ⟨before, rest, htext, hmark⟩
    obtain ⟨⟨mark, length⟩, hmark⟩ := Option.isSome_iff_exists.mp hmark
    refine ⟨before.length, before.length + length, by simp [htext], ?_⟩
    rw [htext]
    exact (h before rest _).mpr ⟨mark, length, hmark, rfl⟩

/-! ## Level marks -/

/-- The pattern of level marks as it is read. -/
def levelNode : Node :=
  .sequence (.sequence (.thenText (.set (.single 'l')) "evel ") (.repeated 1 none (.set .digits)))
    (.set (.single ':'))

theorem parse_levelPattern : Pattern.parse levelPattern = .ok ⟨levelNode⟩ := by
  rfl

theorem hasWord_levelNode (word : List Char) : levelNode.HasWord word ↔
    ∃ level, word = levelText level ∧ level ≠ [] ∧ ∀ c ∈ level, c.isDigit := by
  constructor
  · rintro ⟨_, _, rfl, ⟨_, level, rfl, hstart, hlevel⟩, c, rfl, hc⟩
    obtain ⟨_, rfl, d, rfl, hd⟩ := (Node.hasWord_thenText _ _ _).mp hstart
    obtain rfl := (CharSet.contains_single _ _).mp hc
    obtain rfl := (CharSet.contains_single _ _).mp hd
    simp only [Node.hasWord_atLeastOne, CharSet.contains_digits] at hlevel
    exact ⟨level, by simp [levelText], hlevel⟩
  · rintro ⟨level, rfl, hlevel⟩
    refine ⟨"level ".toList ++ level, [':'], by simp [levelText], ⟨_, level, rfl, ?_, ?_⟩, ':', rfl,
      rfl⟩
    · exact (Node.hasWord_thenText _ _ _).mpr ⟨['l'], rfl, 'l', rfl, rfl⟩
    · simpa only [Node.hasWord_atLeastOne, CharSet.contains_digits] using hlevel

/-- Level marks are read as their pattern matches. -/
theorem levelMark?_follows :
    Follows (fun cs => (levelMark? cs).map fun level => (level, (levelText level).length))
      ⟨levelNode⟩ := by
  intro before rest j
  rw [Node.spans_length_iff rfl]
  simp only [hasWord_levelNode, Option.map_eq_some_iff, levelMark?_eq_some_iff]
  constructor
  · rintro ⟨_, after, rfl, ⟨level, rfl, hlevel⟩, rfl⟩
    exact ⟨level, _, ⟨level, ⟨after, rfl, hlevel⟩, rfl⟩, rfl⟩
  · rintro ⟨_, _, ⟨level, ⟨after, rfl, hlevel⟩, hmark⟩, rfl⟩
    obtain ⟨rfl, rfl⟩ := Prod.mk.inj hmark
    exact ⟨_, after, rfl, ⟨level, rfl, hlevel⟩, rfl⟩

/-- A summary tells a level just when the pattern of level marks is found in it. -/
theorem isSome_level_iff (text : String) :
    (ofText text).level.isSome ↔ (Pattern.mk levelNode).isMatch text := by
  have hlevel : (∃ level, (ofText text).level = some level) ↔
      ∃ digits, IsLeftmost TellsLevel text.toList digits := by
    simp only [level_eq_some_iff, exists_eq_right', exists_comm]
  rw [Option.isSome_iff_exists, hlevel, exists_isLeftmost_iff fun _ _ => levelMark?_eq_some_iff,
    levelMark?_follows.isMatch_iff]
  simp only [Option.isSome_map, Option.isSome_iff_exists, levelMark?_eq_some_iff, exists_and_left]

/-! ## First-level grants -/

/-- The pattern of first-level grants as it is read. -/
def grantNode : Node :=
  .sequence (.thenText (.sequence (.set (.single '(')) (.repeated 1 none (.set .letters))) " 1")
    (.set .nonDigits)

theorem parse_grantPattern : Pattern.parse grantPattern = .ok ⟨grantNode⟩ := by
  rfl

theorem hasWord_grantNode (word : List Char) : grantNode.HasWord word ↔
    ∃ name c, word = grantText name ++ [c] ∧ name ≠ [] ∧ (∀ c ∈ name, c.isAlpha) ∧ ¬c.isDigit := by
  constructor
  · rintro ⟨_, _, rfl, hgrant, c, rfl, hc⟩
    obtain ⟨_, rfl, _, name, rfl, ⟨d, rfl, hd⟩, hname⟩ := (Node.hasWord_thenText _ _ _).mp hgrant
    obtain rfl := (CharSet.contains_single _ _).mp hd
    simp only [Node.hasWord_atLeastOne, CharSet.contains_letters] at hname
    exact ⟨name, c, by simp [grantText], hname.1, hname.2, (CharSet.contains_nonDigits c).mp hc⟩
  · rintro ⟨name, c, rfl, hne, hletters, hc⟩
    refine ⟨grantText name, [c], rfl, ?_, c, rfl, (CharSet.contains_nonDigits c).mpr hc⟩
    refine (Node.hasWord_thenText _ _ _).mpr ⟨'(' :: name, by simp [grantText], ['('], name, rfl,
      ⟨'(', rfl, rfl⟩, ?_⟩
    simpa only [Node.hasWord_atLeastOne, CharSet.contains_letters] using ⟨hne, hletters⟩

/-- Grants are read as their pattern matches. -/
theorem grant?_follows : Follows grant? ⟨grantNode⟩ := by
  intro before rest j
  rw [Node.spans_length_iff rfl]
  simp only [hasWord_grantNode]
  constructor
  · rintro ⟨_, after, rfl, ⟨name, c, rfl, hne, hletters, hc⟩, rfl⟩
    refine ⟨name, name.length + 4, grant?_eq_some_iff.mpr ⟨c, after, by simp, ⟨hne, hletters, ?_⟩,
      rfl⟩, by simp⟩
    rintro _ ⟨⟩
    exact hc
  · rintro ⟨name, length, hmark, rfl⟩
    obtain ⟨c, after, rfl, hgrant, rfl⟩ := grant?_eq_some_iff.mp hmark
    exact ⟨grantText name ++ [c], after, by simp,
      ⟨name, c, rfl, hgrant.nonempty, hgrant.letters, hgrant.level c rfl⟩, by simp⟩

/-! ## Level markers -/

/-- The pattern of level markers as it is read, apart from the condition on its end. -/
def markerNode : Node :=
  .sequence
    (.sequence
      (.sequence (.sequence (.set .openings) (.repeated 0 none (.set .blanks)))
        (.sequence (.set .letters) (.repeated 0 none (.set .lettersAndSpace))))
      (.set (.single ' ')))
    (.repeated 1 (some 2) (.set .digits))

theorem parse_markerPattern :
    Pattern.parse markerPattern = .ok ⟨.sequence markerNode (.look .wordBoundary)⟩ := by
  rfl

theorem hasWord_markerNode (word : List Char) : markerNode.HasWord word ↔
    ∃ opening blanks name level, word = markerText opening blanks name level ∧
      OpensMarker opening blanks name ∧ (∀ c ∈ level, c.isDigit) ∧
      (level.length = 1 ∨ level.length = 2) := by
  constructor
  · rintro ⟨_, level, rfl, ⟨_, _, rfl, hname, c, rfl, hc⟩, hlevel⟩
    obtain ⟨_, _, rfl, ⟨_, blanks, rfl, ⟨opening, rfl, hopening⟩, hblanks⟩,
      _, others, rfl, ⟨first, rfl, hfirst⟩, hothers⟩ := hname
    obtain rfl := (CharSet.contains_single _ _).mp hc
    obtain ⟨hleast, hmost, hdigits⟩ := (Node.hasWord_repeated_set _ _ _ _).mp hlevel
    have hletter := (CharSet.contains_letters first).mp hfirst
    simp only [Node.hasWord_anyNumber, CharSet.contains_blanks] at hblanks
    simp only [Node.hasWord_anyNumber, CharSet.contains_lettersAndSpace] at hothers
    simp only [CharSet.contains_digits] at hdigits
    refine ⟨opening, blanks, first :: others, level, by simp [markerText], ⟨?_, hblanks, ?_, ?_⟩,
      hdigits, ?_⟩
    · exact (CharSet.contains_openings opening).mp hopening
    · exact ⟨first, rfl, hletter⟩
    · exact List.forall_mem_cons.mpr ⟨.inl hletter, hothers⟩
    · have := hmost 2 rfl
      omega
  · rintro ⟨opening, blanks, name, level, rfl, hopens, hdigits, hlength⟩
    obtain ⟨first, hfirst, hletter⟩ := hopens.first
    obtain ⟨others, rfl⟩ := List.head?_eq_some_iff.mp hfirst
    obtain ⟨-, hothers⟩ := List.forall_mem_cons.mp hopens.letters
    refine ⟨opening :: (blanks ++ (first :: others ++ [' '])), level, by simp [markerText],
      ⟨opening :: (blanks ++ first :: others), [' '], by simp, ?_, ' ', rfl, rfl⟩, ?_⟩
    · refine ⟨opening :: blanks, first :: others, rfl, ⟨[opening], blanks, rfl,
        ⟨opening, rfl, (CharSet.contains_openings opening).mpr hopens.opening⟩, ?_⟩,
        [first], others, rfl, ⟨first, rfl, (CharSet.contains_letters first).mpr hletter⟩, ?_⟩
      · simpa only [Node.hasWord_anyNumber, CharSet.contains_blanks] using hopens.blanks
      · simpa only [Node.hasWord_anyNumber, CharSet.contains_lettersAndSpace] using hothers
    · refine (Node.hasWord_repeated_set _ _ _ _).mpr ⟨by omega, ?_,
        fun c hc => (CharSet.contains_digits c).mpr (hdigits c hc)⟩
      rintro _ ⟨⟩
      omega

theorem exists_isWord_of_digits {opening : Char} {blanks name level : List Char}
    (hdigits : ∀ c ∈ level, c.isDigit) (hne : level ≠ []) :
    ∃ c ∈ (markerText opening blanks name level).getLast?, isWord c := by
  have htext : markerText opening blanks name level =
      opening :: (blanks ++ (name ++ [' '])) ++ level := by simp [markerText]
  refine ⟨level.getLast hne, ?_, isWordChar_of_isDigit (hdigits _ (List.getLast_mem hne))⟩
  rw [htext, List.getLast?_append_of_ne_nil _ hne]
  exact List.getLast?_eq_some_getLast hne

/-- Level markers are read as their pattern matches. -/
theorem marker?_follows : Follows marker? ⟨.sequence markerNode (.look .wordBoundary)⟩ := by
  intro before rest j
  rw [Node.spans_sequence_look, Node.spans_length_iff rfl]
  simp only [hasWord_markerNode]
  constructor
  · rintro ⟨⟨_, after, rfl, ⟨opening, blanks, name, level, rfl, hopens, hdigits, hlength⟩, rfl⟩, -,
      hboundary⟩
    have hne : level ≠ [] := by rintro rfl; simp at hlength
    rw [Look.holds_wordBoundary_iff (exists_isWord_of_digits hdigits hne)] at hboundary
    exact ⟨(name, level), _, marker?_eq_some_iff.mpr
      ⟨opening, blanks, after, rfl, ⟨hopens, hdigits, hlength, hboundary⟩, rfl⟩, rfl⟩
  · rintro ⟨⟨name, level⟩, length, hmark, rfl⟩
    obtain ⟨opening, blanks, after, rfl, hmarker, rfl⟩ := marker?_eq_some_iff.mp hmark
    have hlength := hmarker.length
    refine ⟨⟨_, after, rfl, ⟨opening, blanks, name, level, rfl, hmarker.toOpensMarker,
      hmarker.digits, hlength⟩, rfl⟩, by simp, ?_⟩
    have hne : level ≠ [] := by rintro rfl; simp at hlength
    rw [Look.holds_wordBoundary_iff (exists_isWord_of_digits hmarker.digits hne)]
    exact hmarker.boundary

end ClassFeatures

end SheetImport
