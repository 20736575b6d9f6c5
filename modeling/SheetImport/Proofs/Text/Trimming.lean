import Mathlib.Data.List.DropRight
import SheetImport.Proofs.Text.Spans
import SheetImport.Text.Whitespace

/-!
# Trimmed text

Trimming leaves no white space at the ends of a text, and it leaves nothing only of text that is all
white space.
-/

namespace SheetImport.Text

/-- Text that can stand as a name: there is some, and no white space at its ends. -/
structure IsLabel (s : String) : Prop where
  nonempty : s ≠ ""
  first : ∀ c ∈ s.toList.head?, ¬isSpace c
  last : ∀ c ∈ s.toList.getLast?, ¬isSpace c

theorem trimChars_eq_rdropWhile (cs : List Char) :
    trimChars cs = (cs.dropWhile isSpace).rdropWhile isSpace := by
  rfl

theorem trimChars_eq_nil_iff {cs : List Char} : trimChars cs = [] ↔ ∀ c ∈ cs, isSpace c := by
  rw [trimChars_eq_rdropWhile, List.rdropWhile_eq_nil_iff]
  constructor
  · intro h c hc
    rw [← List.takeWhile_append_dropWhile (p := isSpace) (l := cs), List.mem_append] at hc
    rcases hc with hc | hc
    · exact List.mem_takeWhile_imp hc
    · exact h c hc
  · intro h c hc
    exact h c ((List.dropWhile_sublist isSpace).subset hc)

theorem head?_trimChars {cs : List Char} {c : Char} (h : (trimChars cs).head? = some c) :
    ¬isSpace c := by
  have hprefix : trimChars cs <+: cs.dropWhile isSpace := List.rdropWhile_prefix isSpace _
  have hhead : (cs.dropWhile isSpace).head? = some c := by
    obtain ⟨rest, hrest⟩ := List.head?_eq_some_iff.mp h
    obtain ⟨more, hmore⟩ := hprefix
    rw [← hmore, hrest]
    rfl
  have hstop := List.head?_dropWhile_not isSpace cs
  rw [hhead] at hstop
  simpa using hstop

theorem getLast?_trimChars {cs : List Char} {c : Char} (h : (trimChars cs).getLast? = some c) :
    ¬isSpace c := by
  obtain ⟨hne, hlast⟩ := List.mem_getLast?_eq_getLast h
  rw [hlast]
  exact List.rdropWhile_last_not isSpace _ hne

/-- Of text that does not begin with white space only white space at its end is lost. -/
theorem exists_append_trimChars {cs : List Char} (h : ∀ c ∈ cs.head?, isSpace c = false) :
    ∃ spaces, cs = trimChars cs ++ spaces ∧ ∀ c ∈ spaces, isSpace c := by
  have hdrop : cs.dropWhile isSpace = cs := dropWhile_span (List.forall_mem_nil _) h
  refine ⟨(cs.reverse.takeWhile isSpace).reverse, ?_, ?_⟩
  · rw [trimChars, hdrop, ← List.reverse_append, List.takeWhile_append_dropWhile,
      List.reverse_reverse]
  · intro c hc
    exact List.mem_takeWhile_imp (List.mem_reverse.mp hc)

theorem trimChars_append {word spaces : List Char} (hne : word ≠ [])
    (hfirst : ∀ c ∈ word.head?, isSpace c = false) (hlast : ∀ c ∈ word.getLast?, isSpace c = false)
    (hspaces : ∀ c ∈ spaces, isSpace c) : trimChars (word ++ spaces) = word := by
  have hhead : ∀ c ∈ (word ++ spaces).head?, isSpace c = false := by
    rwa [List.head?_append_of_ne_nil _ hne]
  have hdrop : (word ++ spaces).dropWhile isSpace = word ++ spaces :=
    dropWhile_span (List.forall_mem_nil _) hhead
  rw [trimChars, hdrop, List.reverse_append, dropWhile_span, List.reverse_reverse]
  · intro c hc
    exact hspaces c (List.mem_reverse.mp hc)
  · rwa [List.head?_reverse]

theorem isLabel_ofList_trimChars {cs : List Char} (h : ∃ c ∈ cs, ¬isSpace c) :
    IsLabel (String.ofList (trimChars cs)) where
  nonempty := by
    intro hempty
    obtain ⟨c, hc, hspace⟩ := h
    rw [String.ofList_eq_empty_iff] at hempty
    exact hspace (trimChars_eq_nil_iff.mp hempty c hc)
  first := by
    intro c hc
    rw [String.toList_ofList] at hc
    exact head?_trimChars hc
  last := by
    intro c hc
    rw [String.toList_ofList] at hc
    exact getLast?_trimChars hc

/-- Trimmed text is a label as soon as there is some. -/
theorem isLabel_trim {s : String} (h : trim s ≠ "") : IsLabel (trim s) := by
  apply isLabel_ofList_trimChars
  by_contra hnone
  push Not at hnone
  apply h
  rw [trim, trimChars_eq_nil_iff.mpr hnone]

/-- Text without any white space is a label as soon as there is some. -/
theorem isLabel_ofList {cs : List Char} (hne : cs ≠ []) (hspace : ∀ c ∈ cs, ¬isSpace c) :
    IsLabel (String.ofList cs) where
  nonempty := by rwa [Ne, String.ofList_eq_empty_iff]
  first := by
    intro c hc
    rw [String.toList_ofList] at hc
    exact hspace c (List.mem_of_mem_head? hc)
  last := by
    intro c hc
    rw [String.toList_ofList] at hc
    exact hspace c (List.mem_of_mem_getLast? hc)

/-! ## Trimming without a scan -/

/-- The code points with the property `White_Space`: control characters, the space, the next line,
the no-break space, and the spaces and separators behind Latin-1. -/
def whiteSpaces : List Nat :=
  [0x9, 0xa, 0xb, 0xc, 0xd, 0x20, 0x85, 0xa0, 0x1680, 0x2000, 0x2001, 0x2002, 0x2003, 0x2004, 0x2005,
    0x2006, 0x2007, 0x2008, 0x2009, 0x200a, 0x2028, 0x2029, 0x202f, 0x205f, 0x3000]

theorem isSpace_iff (c : Char) : isSpace c ↔ c.toNat ∈ whiteSpaces := by
  simp only [isSpace, whiteSpaces, Bool.or_eq_true, Bool.and_eq_true, decide_eq_true_eq, beq_iff_eq,
    List.mem_cons, List.not_mem_nil, or_false]
  omega

/-- Whether the second text is the first one without the white space at its ends. -/
structure Trims (s t : String) : Prop where
  surrounded : ∃ before after, s.toList = before ++ t.toList ++ after ∧
    ∀ c ∈ before ++ after, c.toNat ∈ whiteSpaces
  first : ∀ c ∈ t.toList.head?, c.toNat ∉ whiteSpaces
  last : ∀ c ∈ t.toList.getLast?, c.toNat ∉ whiteSpaces

theorem trims_trim (s : String) : Trims s (trim s) := by
  refine ⟨⟨s.toList.takeWhile isSpace,
    ((s.toList.dropWhile isSpace).reverse.takeWhile isSpace).reverse, ?_, ?_⟩, ?_, ?_⟩
  · rw [trim, String.toList_ofList, trimChars, List.append_assoc, ← List.reverse_append,
      List.takeWhile_append_dropWhile, List.reverse_reverse, List.takeWhile_append_dropWhile]
  · intro c hc
    rw [← isSpace_iff]
    rcases List.mem_append.mp hc with hc | hc
    · exact List.mem_takeWhile_imp hc
    · exact List.mem_takeWhile_imp (List.mem_reverse.mp hc)
  · intro c hc
    rw [trim, String.toList_ofList] at hc
    rw [← isSpace_iff]
    exact head?_trimChars hc
  · intro c hc
    rw [trim, String.toList_ofList] at hc
    rw [← isSpace_iff]
    exact getLast?_trimChars hc

/-- There is only one way to trim a text. -/
theorem trims_iff {s t : String} : Trims s t ↔ t = trim s := by
  constructor
  · rintro ⟨⟨before, after, hs, hspaces⟩, hfirst, hlast⟩
    simp only [← isSpace_iff, List.mem_append] at hspaces hfirst hlast
    have hbefore : (before ++ (t.toList ++ after)).dropWhile isSpace =
        (t.toList ++ after).dropWhile isSpace :=
      List.dropWhile_append_of_pos fun c hc => hspaces c (.inl hc)
    have htrim : trimChars s.toList = trimChars (t.toList ++ after) := by
      rw [hs, List.append_assoc, trimChars, hbefore, ← trimChars]
    apply String.toList_injective
    rw [trim, String.toList_ofList, htrim]
    by_cases hempty : t.toList = []
    · rw [hempty, List.nil_append, eq_comm, trimChars_eq_nil_iff]
      exact fun c hc => hspaces c (.inr hc)
    · exact (trimChars_append hempty (by simpa using hfirst) (by simpa using hlast)
        fun c hc => hspaces c (.inr hc)).symm
  · rintro rfl
    exact trims_trim s

/-- Something is left of trimmed text if there is anything but white space in it. -/
theorem trim_ne_empty_iff {s : String} :
    trim s ≠ "" ↔ ∃ c ∈ s.toList, c.toNat ∉ whiteSpaces := by
  rw [Ne, trim, String.ofList_eq_empty_iff, trimChars_eq_nil_iff]
  simp [isSpace_iff]

end SheetImport.Text
