import Mathlib
import SheetImport.Pattern.Basic
import SheetImport.Proofs.Pattern.Words

/-!
# Texts as patterns

A text without any of the characters that mean something in a pattern is a pattern that stands for
itself.  Where case is set aside, its words are all texts that differ from it in the case of letters
from A to Z and in nothing else.  It can be refused for its size only, which depends on how many
characters and how many such letters it has.
-/

namespace SheetImport.Pattern

/-- The characters that mean something else than themselves in a pattern. -/
def metacharacters : List Char :=
  ['\\', '.', '+', '*', '?', '(', ')', '[', ']', '{', '}', '^', '$', '|']

/-- What is set where upper and lower case are not told apart, and nothing else. -/
def caselessFlags : Flags :=
  { noFlags with caseless := true }

/-! ## Reading -/

def literalPiece (flags : Flags) (c : Char) : Piece :=
  Piece.ofAtom (literal flags c)

theorem step_literal (place : Place) {c : Char} (rest : List Char) (hc : c ∉ metacharacters) :
    place.step c rest = .ok (place.push (literal place.flags c) rest) := by
  have hne (d : Char) (hd : d ∈ metacharacters) : c ≠ d := fun heq => hc (heq ▸ hd)
  rw [Place.step]
  all_goals exact fun heq => absurd heq (hne _ (by decide))

/-- Characters that stand for themselves become pieces one by one. -/
theorem readAll_literals {flags : Flags} (hflags : flags.verbose = false) {cs : List Char}
    (hplain : ∀ c ∈ cs, c ∉ metacharacters) (pieces : List Piece) :
    readAll (cs.length + 1) ⟨cs, flags, 0, [], [], ⟨[], pieces⟩⟩ =
      Place.finish ⟨[], flags, 0, [], [],
        ⟨[], (cs.map (literalPiece flags)).reverse ++ pieces⟩⟩ := by
  have hskip (rest : List Char) : skip flags rest = rest := by simp [skip, hflags]
  induction cs generalizing pieces with
  | nil => simp only [readAll, hskip, List.map_nil, List.reverse_nil, List.nil_append]
  | cons c rest ih =>
      have hc : c ∉ metacharacters := hplain c List.mem_cons_self
      have hrest := ih (fun d hd => hplain d (List.mem_cons_of_mem c hd))
        (literalPiece flags c :: pieces)
      rw [List.map_cons, List.reverse_cons, List.append_assoc, List.singleton_append, ← hrest,
        List.length_cons, readAll, hskip]
      simp only [step_literal _ rest hc]
      rfl

/-! ## Height and size -/

theorem height_literalPiece (flags : Flags) (c : Char) : (literalPiece flags c).height = 0 := by
  rw [literalPiece, literal]
  split <;> rfl

theorem height_sequence_le {pieces : List Piece} (h : ∀ piece ∈ pieces, piece.height = 0) :
    (Piece.sequence pieces).height ≤ 1 := by
  have htallest : Piece.tallest pieces = 0 := by
    rw [Piece.tallest]
    induction pieces with
    | nil => rfl
    | cons piece rest ih =>
        rw [List.foldl_cons, h piece List.mem_cons_self, Nat.max_zero]
        exact ih fun other hother => h other (List.mem_cons_of_mem piece hother)
  cases pieces with
  | nil => exact Nat.zero_le 1
  | cons first rest =>
      cases rest with
      | nil => exact (h first List.mem_cons_self).trans_le (Nat.zero_le 1)
      | cons second rest => exact (congrArg Nat.succ htallest).le

theorem extent_sequence_cons (first : Piece) (rest : List Piece) :
    (Piece.sequence (first :: rest)).extent =
      rest.foldl (fun extent piece => extent.append piece.extent) first.extent := by
  cases rest <;> rfl

theorem node_sequence_cons (first : Piece) (rest : List Piece) :
    (Piece.sequence (first :: rest)).node =
      rest.foldl (fun node piece => .sequence node piece.node) first.node := by
  cases rest <;> rfl

/-- A piece without groups adds its states to the size of what stands before it. -/
theorem total_foldl_append {pieces : List Piece}
    (h : ∀ piece ∈ pieces, piece.extent.groups = 0 ∧ piece.extent.names = 0) (extent : Extent) :
    (pieces.foldl (fun extent piece => extent.append piece.extent) extent).total =
      extent.total + (pieces.map fun piece => piece.extent.states).sum := by
  induction pieces generalizing extent with
  | nil => rfl
  | cons piece rest ih =>
      obtain ⟨hgroups, hnames⟩ := h piece List.mem_cons_self
      have hpiece : (extent.append piece.extent).total = extent.total + piece.extent.states := by
        simp only [Extent.append, Extent.total, hgroups, hnames, Nat.max_zero]
        omega
      rw [List.foldl_cons, ih fun other hother => h other (List.mem_cons_of_mem piece hother),
        hpiece, List.map_cons, List.sum_cons, Nat.add_assoc]

theorem extent_literalPiece (flags : Flags) (c : Char) :
    (literalPiece flags c).extent =
      .ofState (32 + if flags.caseless && c.isAlpha then 16 else 0) false := by
  rw [literalPiece, literal]
  split <;> rfl

/-- The bytes that an automaton for a text takes where case is set aside: those of one state for each
character, of two ranges for each letter from A to Z, and of the group that the whole is.  No
characters take one state too. -/
def caselessBytes (cs : List Char) : Nat :=
  112 + max 32 (32 * cs.length + 16 * cs.countP Char.isAlpha)

theorem total_sequence_literals (cs : List Char) :
    (Piece.sequence (cs.map (literalPiece caselessFlags))).extent.total = caselessBytes cs := by
  have hstates (cs : List Char) :
      ((cs.map (literalPiece caselessFlags)).map fun piece => piece.extent.states).sum =
        32 * cs.length + 16 * cs.countP Char.isAlpha := by
    induction cs with
    | nil => rfl
    | cons c rest ih =>
        rw [List.map_cons, List.map_cons, List.sum_cons, ih, extent_literalPiece, List.length_cons,
          List.countP_cons]
        cases c.isAlpha <;> simp [Extent.ofState, caselessFlags] <;> omega
  cases cs with
  | nil => rfl
  | cons c rest =>
      have hgroups : ∀ piece ∈ rest.map (literalPiece caselessFlags),
          piece.extent.groups = 0 ∧ piece.extent.names = 0 := by
        intro piece hpiece
        obtain ⟨d, -, rfl⟩ := List.mem_map.mp hpiece
        rw [extent_literalPiece]
        exact ⟨rfl, rfl⟩
      have hfirst : (literalPiece caselessFlags c).extent.total =
          112 + (literalPiece caselessFlags c).extent.states := by
        rw [extent_literalPiece, Extent.total]
        simp only [Extent.ofState, Extent.state, Extent.group]
        omega
      have hall := hstates (c :: rest)
      rw [List.map_cons, List.map_cons, List.sum_cons] at hall
      rw [List.map_cons, extent_sequence_cons, total_foldl_append hgroups, hfirst, caselessBytes,
        Nat.add_assoc, hall, List.length_cons]
      omega

/-! ## Words -/

/-- The characters that a character stands for where case is set aside. -/
def caselessSet (c : Char) : CharSet :=
  if c.isAlpha then .bothCases c else .single c

theorem contains_bothCases (c d : Char) :
    (CharSet.bothCases c).contains d ↔ d = c.toUpper ∨ d = c.toLower := by
  rw [← CharSet.contains_single, ← CharSet.contains_single]
  simp [CharSet.contains, CharSet.bothCases, CharSet.single]

theorem caseFold_eq_iff (c d : Char) :
    d.caseFoldAsciiOnly = c.caseFoldAsciiOnly ↔ d = c.toUpper ∨ d = c.toLower := by
  constructor
  · intro hfold
    by_cases hupper : d.isUpper
    · have hd : d.toUpper = d := Char.toUpper_eq_of_not_isLower (Char.not_isLower_of_isUpper hupper)
      left
      calc
        d = d.toLower.toUpper := by rw [Char.toUpper_toLower_eq_toUpper, hd]
        _ = c.toLower.toUpper := congrArg Char.toUpper hfold
        _ = c.toUpper := Char.toUpper_toLower_eq_toUpper c
    · exact .inr ((Char.toLower_eq_of_not_isUpper hupper).symm.trans hfold)
  · intro hcases
    rcases hcases with rfl | rfl
    · exact Char.toLower_toUpper_eq_toLower c
    · exact Char.toLower_toLower_eq_toLower c

theorem contains_caselessSet (c d : Char) :
    (caselessSet c).contains d ↔ d.caseFoldAsciiOnly = c.caseFoldAsciiOnly := by
  rw [caseFold_eq_iff, caselessSet]
  split
  case isTrue => exact contains_bothCases c d
  case isFalse hother =>
    rw [Char.isAlpha, Bool.or_eq_true, not_or] at hother
    rw [CharSet.contains_single, Char.toUpper_eq_of_not_isLower hother.2,
      Char.toLower_eq_of_not_isUpper hother.1, or_self]

/-- The pattern of a text where case is set aside. -/
def caselessText : List Char → Node
  | [] => .empty
  | c :: rest =>
      (rest.map caselessSet).foldl (fun node chars => .sequence node (.set chars))
        (.set (caselessSet c))

theorem node_sequence_literals (cs : List Char) :
    (Piece.sequence (cs.map (literalPiece caselessFlags))).node = caselessText cs := by
  have hnode (c : Char) : (literalPiece caselessFlags c).node = .set (caselessSet c) := by
    rw [literalPiece, literal, caselessSet, caselessFlags, Bool.true_and]
    split <;> rfl
  cases cs with
  | nil => rfl
  | cons c rest =>
      rw [List.map_cons, node_sequence_cons, caselessText, List.foldl_map, List.foldl_map, hnode]
      simp only [hnode]

theorem isPlain_caselessText (cs : List Char) : (caselessText cs).isPlain := by
  cases cs with
  | nil => rfl
  | cons c rest =>
      rw [caselessText]
      generalize hnode : Node.set (caselessSet c) = node
      have hplain : node.isPlain := hnode ▸ rfl
      clear hnode
      induction rest generalizing node with
      | nil => exact hplain
      | cons d rest ih => exact ih _ (by rw [Node.isPlain, hplain]; rfl)

/-- The words of a text where case is set aside differ from it in case only. -/
theorem hasWord_caselessText (cs word : List Char) :
    (caselessText cs).HasWord word ↔
      word.map Char.caseFoldAsciiOnly = cs.map Char.caseFoldAsciiOnly := by
  have hwords (ds word : List Char) :
      List.Forall₂ (fun c chars => CharSet.contains chars c) word (ds.map caselessSet) ↔
        word.map Char.caseFoldAsciiOnly = ds.map Char.caseFoldAsciiOnly := by
    simp only [List.forall₂_map_right_iff, contains_caselessSet]
    rw [← List.forall₂_eq_eq_eq, List.forall₂_map_left_iff, List.forall₂_map_right_iff]
  cases cs with
  | nil => rw [caselessText, Node.HasWord, List.map_nil, List.map_eq_nil_iff]
  | cons c rest =>
      rw [← hwords, caselessText, Node.hasWord_foldl_sets, List.map_cons]
      constructor
      · intro h
        obtain ⟨_, v, rfl, ⟨d, rfl, hd⟩, hrest⟩ := h
        exact .cons hd hrest
      · intro h
        cases h with
        | @cons d _ v _ hd hrest => exact ⟨[d], v, rfl, ⟨d, rfl, hd⟩, hrest⟩

/-! ## Texts as patterns where case is set aside -/

/-- Pieces that are not repeated and in no group are refused for their size only. -/
theorem finish_literals (flags : Flags) (cs : List Char) :
    Place.finish ⟨[], flags, 0, [], [], ⟨[], (cs.map (literalPiece flags)).reverse⟩⟩ =
      if Extent.limit < (Piece.sequence (cs.map (literalPiece flags))).extent.total then
        .error .tooLarge
      else .ok (Piece.sequence (cs.map (literalPiece flags))).node := by
  have hpiece (pieces : List Piece) :
      Partial.piece ⟨[], pieces.reverse⟩ = Piece.sequence pieces := by
    rw [Partial.piece, List.reverse_reverse]
    rfl
  have hheight : (Piece.sequence (cs.map (literalPiece flags))).height ≤ 1 := by
    apply height_sequence_le
    intro piece hpiece
    obtain ⟨c, -, rfl⟩ := List.mem_map.mp hpiece
    exact height_literalPiece flags c
  rw [Place.finish]
  simp only [hpiece]
  rw [if_neg (by simp), if_neg (Nat.not_lt_of_le (hheight.trans (by decide)))]

/-- A text without metacharacters is a pattern for itself unless it is too large. -/
theorem parseCaseless_of_plain {text : String} (hplain : ∀ c ∈ text.toList, c ∉ metacharacters) :
    parseCaseless text =
      if Extent.limit < caselessBytes text.toList then .error .tooLarge
      else .ok ⟨caselessText text.toList⟩ := by
  change (parseChars caselessFlags text.toList).map Pattern.mk = _
  rw [parseChars, readAll_literals rfl hplain, List.append_nil, finish_literals,
    total_sequence_literals, node_sequence_literals]
  split <;> rfl

/-- It is found where it stands but for the case of letters from A to Z. -/
theorem isMatch_caselessText (cs : List Char) (s : String) :
    isMatch ⟨caselessText cs⟩ s ↔
      cs.map Char.caseFoldAsciiOnly <:+: s.toList.map Char.caseFoldAsciiOnly := by
  have hplain : (Pattern.mk (caselessText cs)).node.isPlain := isPlain_caselessText cs
  rw [isMatch_iff_hasWord hplain]
  simp only [hasWord_caselessText]
  constructor
  · intro h
    obtain ⟨before, word, after, hparts, hword⟩ := h
    rw [hparts, List.map_append, List.map_append, hword, ← List.append_assoc]
    exact List.infix_append _ _ _
  · intro h
    obtain ⟨before, after, hparts⟩ := h
    obtain ⟨front, behind, hs, hfront, rfl⟩ := List.map_eq_append_iff.mp hparts.symm
    obtain ⟨before, word, rfl, -, hword⟩ := List.map_eq_append_iff.mp hfront
    exact ⟨before, word, behind, by rw [hs, List.append_assoc], hword⟩

end SheetImport.Pattern
