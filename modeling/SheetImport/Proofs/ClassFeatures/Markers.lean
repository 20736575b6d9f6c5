import SheetImport.Proofs.ClassFeatures.Grants
import SheetImport.Proofs.Text.Letters
import SheetImport.Proofs.Text.Spans
import SheetImport.Proofs.Text.Trimming

/-!
# Level markers that are found

A level marker opens with a bracket or a comma, and neither of them occurs again in its text.  So no
marker begins inside another one, and a scan from left to right finds them all, wherever they stand.
The subclasses are the names in these markers, apart from the base classes.
-/

namespace SheetImport.ClassFeatures

/-! ## Markers in a text -/

/-- The text of a level marker. -/
def markerText (opening : Char) (blanks name level : List Char) : List Char :=
  opening :: (blanks ++ (name ++ ' ' :: level))

@[simp] theorem length_markerText (opening : Char) (blanks name level : List Char) :
    (markerText opening blanks name level).length =
      blanks.length + name.length + level.length + 2 := by
  simp only [markerText, List.length_cons, List.length_append]
  omega

/-- Whether text of that form begins like a marker: an opening, blanks, and a name that is made of
letters and spaces and starts with a letter. -/
structure OpensMarker (opening : Char) (blanks name : List Char) : Prop where
  opening : opening = '(' ∨ opening = ','
  blanks : ∀ c ∈ blanks, isBlank c
  first : ∃ c ∈ name.head?, c.isAlpha
  letters : ∀ c ∈ name, c.isAlpha ∨ c = ' '

/-- Whether text of that form is a marker: its level has one or two digits, and the text ends behind
them or goes on with a character that is no part of a word. -/
structure IsMarker (opening : Char) (blanks name level after : List Char) : Prop
    extends OpensMarker opening blanks name where
  digits : ∀ c ∈ level, c.isDigit
  length : level.length = 1 ∨ level.length = 2
  boundary : ∀ c ∈ after.head?, ¬isWordChar c

theorem isNameChar_iff {c : Char} : isNameChar c ↔ c.isAlpha ∨ c = ' ' := by
  rw [isNameChar, Bool.or_eq_true, beq_iff_eq]

theorem isWordChar_of_isDigit {c : Char} (h : c.isDigit) : isWordChar c := by
  rw [isWordChar, Char.isAlphanum, h, Bool.or_true, Bool.true_or]

theorem not_isBlank_of_isAlpha {c : Char} (h : c.isAlpha) : ¬isBlank c := by
  intro hblank
  rw [isBlank, Bool.or_eq_true, beq_iff_eq, Bool.and_eq_true, decide_eq_true_iff,
    decide_eq_true_iff] at hblank
  rw [Text.isAlpha_iff, Text.isUpper_iff, Text.isLower_iff] at h
  rcases hblank with rfl | ⟨-, hlast⟩
  · exact absurd h (by decide)
  · have : c.toNat ≤ '\r'.toNat := hlast
    have : '\r'.toNat = 0xd := rfl
    omega

theorem not_isNameChar_of_isDigit {c : Char} (h : c.isDigit) : ¬isNameChar c := by
  rw [isNameChar_iff, not_or, Text.isAlpha_iff, Text.isUpper_iff, Text.isLower_iff]
  have hrange : 0x30 ≤ c.toNat ∧ c.toNat ≤ 0x39 := Char.isDigit_iff_toNat.mp h
  refine ⟨by omega, ?_⟩
  rintro rfl
  exact absurd hrange (by decide)

/-- Behind an opening, blanks and a name, a level is read as far as its digits go. -/
theorem marker?_markerText {opening : Char} {blanks name level after : List Char}
    (hopens : OpensMarker opening blanks name) (hne : level ≠ [])
    (hdigits : ∀ c ∈ level, c.isDigit) (hafter : ∀ c ∈ after.head?, c.isDigit = false) :
    marker? (markerText opening blanks name level ++ after) =
      if (level.length = 1 ∨ level.length = 2) ∧ !after.head?.any isWordChar then
        some ((name, level), (markerText opening blanks name level).length)
      else none := by
  obtain ⟨first, hfirst, hletter⟩ := hopens.first
  obtain ⟨others, rfl⟩ := List.head?_eq_some_iff.mp hfirst
  obtain ⟨digit, digits, rfl⟩ := List.exists_cons_of_ne_nil hne
  have hrun : ∀ c ∈ first :: others ++ [' '], isNameChar c := by
    intro c hc
    rw [isNameChar_iff]
    rcases List.mem_append.mp hc with hc | hc
    · exact hopens.letters c hc
    · exact .inr (List.mem_singleton.mp hc)
  have hblanks : ∀ c ∈ (first :: others ++ [' '] ++ (digit :: digits ++ after)).head?,
      isBlank c = false := by
    rintro c ⟨⟩
    simpa using not_isBlank_of_isAlpha hletter
  have hname : ∀ c ∈ (digit :: digits ++ after).head?, isNameChar c = false := by
    rintro c ⟨⟩
    simpa using not_isNameChar_of_isDigit (hdigits digit List.mem_cons_self)
  have htext : markerText opening blanks (first :: others) (digit :: digits) ++ after =
      opening :: (blanks ++ (first :: others ++ [' '] ++ (digit :: digits ++ after))) := by
    simp [markerText]
  rw [htext, marker?, if_pos hopens.opening]
  simp only [Text.takeWhile_span hopens.blanks hblanks, Text.dropWhile_span hopens.blanks hblanks,
    Text.takeWhile_span hrun hname, Text.dropWhile_span hrun hname,
    Text.takeWhile_span hdigits hafter, Text.dropWhile_span hdigits hafter]
  have hlast : (first :: others ++ [' ']).getLast? = some ' ' := List.getLast?_concat
  have hhead : (first :: others ++ [' ']).head?.any Char.isAlpha = true := hletter
  rw [hlast, hhead, List.dropLast_concat]
  simp only [true_and, length_markerText, List.length_append, List.length_cons, List.length_nil]
  congr 3
  omega

/-- What is read as a marker is one, and all of its text is taken. -/
theorem isMarker_of_marker? {cs name level : List Char} {length : Nat}
    (h : marker? cs = some ((name, level), length)) :
    ∃ opening blanks after, cs = markerText opening blanks name level ++ after ∧
      IsMarker opening blanks name level after ∧
      length = (markerText opening blanks name level).length := by
  unfold marker? at h
  split at h
  case h_2 => cases h
  case h_1 opening rest =>
    split at h
    case isFalse => cases h
    case isTrue hopening =>
      dsimp only at h
      split at h
      case isFalse => cases h
      case isTrue hmark =>
        obtain ⟨hfirst, hlast, hlength, hboundary⟩ := hmark
        -- The name takes the space before the level with it, which is given back.
        obtain ⟨word, hword⟩ := List.getLast?_eq_some_iff.mp hlast
        have hletters : ∀ c ∈ word ++ [' '], isNameChar c := by
          rw [← hword]
          exact fun c => List.mem_takeWhile_imp
        have hdigits : ∀ c ∈
            ((rest.dropWhile isBlank).dropWhile isNameChar).takeWhile Char.isDigit, c.isDigit :=
          fun c => List.mem_takeWhile_imp
        have hblanks : ∀ c ∈ rest.takeWhile isBlank, isBlank c :=
          fun c => List.mem_takeWhile_imp
        have hrest := List.takeWhile_append_dropWhile (p := isBlank) (l := rest)
        generalize rest.takeWhile isBlank = blanks, rest.dropWhile isBlank = start at *
        have hstart := List.takeWhile_append_dropWhile (p := isNameChar) (l := start)
        rw [hword] at h hfirst hstart
        generalize start.dropWhile isNameChar = behind at *
        have hbehind := List.takeWhile_append_dropWhile (p := Char.isDigit) (l := behind)
        generalize behind.takeWhile Char.isDigit = level, behind.dropWhile Char.isDigit = after at *
        rw [List.dropLast_concat] at h
        cases h
        refine ⟨opening, blanks, after, ?_, ⟨⟨hopening, hblanks, ?_, ?_⟩, hdigits, hlength, ?_⟩, ?_⟩
        · rw [← hrest, ← hstart, ← hbehind]
          simp [markerText]
        · cases name with
          | nil => exact absurd hfirst (by decide)
          | cons first others => exact ⟨first, rfl, hfirst⟩
        · intro c hc
          exact isNameChar_iff.mp (hletters c (List.mem_append_left _ hc))
        · intro c hc
          rw [Option.mem_def] at hc
          simpa [hc] using hboundary
        · rw [length_markerText, List.length_append, List.length_singleton]
          omega

theorem marker?_eq_some_iff {cs name level : List Char} {length : Nat} :
    marker? cs = some ((name, level), length) ↔
      ∃ opening blanks after, cs = markerText opening blanks name level ++ after ∧
        IsMarker opening blanks name level after ∧
        length = (markerText opening blanks name level).length := by
  refine ⟨isMarker_of_marker?, ?_⟩
  rintro ⟨opening, blanks, after, rfl, hmark, rfl⟩
  have hne : level ≠ [] := by
    rintro rfl
    simpa using hmark.length
  have hafter : ∀ c ∈ after.head?, c.isDigit = false := by
    intro c hc
    exact Bool.eq_false_iff.mpr fun hdigit => hmark.boundary c hc (isWordChar_of_isDigit hdigit)
  rw [marker?_markerText hmark.toOpensMarker hne hmark.digits hafter, if_pos]
  refine ⟨hmark.length, ?_⟩
  cases hhead : after.head? with
  | none => rfl
  | some c => simpa using hmark.boundary c hhead

/-! ## No marker inside another -/

/-- Behind its opening, the text of a marker has neither a bracket nor a comma. -/
theorem not_opening_of_mem {opening c : Char} {blanks name level after : List Char}
    (hmark : IsMarker opening blanks name level after) (hc : c ∈ blanks ++ (name ++ ' ' :: level)) :
    ¬(c = '(' ∨ c = ',') := by
  have hkind : isBlank c ∨ (c.isAlpha ∨ c = ' ') ∨ c.isDigit := by
    rcases List.mem_append.mp hc with hc | hc
    · exact .inl (hmark.blanks c hc)
    · rcases List.mem_append.mp hc with hc | hc
      · exact .inr (.inl (hmark.letters c hc))
      · rcases List.mem_cons.mp hc with rfl | hc
        · exact .inr (.inl (.inr rfl))
        · exact .inr (.inr (hmark.digits c hc))
  rintro (rfl | rfl) <;> exact absurd hkind (by decide)

/-- A scan counts the markers at all places of a text. -/
theorem marks_marker? (cs : List Char) :
    marks marker? 0 cs = cs.tails.filterMap fun rest => (marker? rest).map Prod.fst := by
  apply marks_eq_filterMap_tails rfl
  rintro inner rest ⟨name, level⟩ length hinner hlt hmarker
  obtain ⟨opening, blanks, after, htext, hmark, rfl⟩ := marker?_eq_some_iff.mp hmarker
  obtain ⟨first, others, rfl⟩ := List.exists_cons_of_ne_nil hinner
  rw [markerText, List.cons_append, List.cons_append] at htext
  obtain ⟨rfl, hrest⟩ := List.cons.inj htext
  cases rest with
  | nil => rfl
  | cons c rest =>
      have hinside : others.length < (blanks ++ (name ++ ' ' :: level)).length := by
        rw [markerText, List.length_cons, List.length_cons] at hlt
        exact Nat.lt_of_succ_lt_succ hlt
      have hc : c ∈ blanks ++ (name ++ ' ' :: level) := by
        apply List.mem_of_getElem? (i := others.length)
        rw [← List.getElem?_append_left hinside, ← hrest, List.getElem?_append_right le_rfl,
          Nat.sub_self, List.getElem?_cons_zero]
      rw [marker?, if_neg (not_opening_of_mem hmark hc)]

/-! ## Subclasses -/

/-- Whether a marker stands at the start of a text that marks this name: its level is one that a
character can have, and the name is followed by any number of spaces. -/
def MarksName (cs : List Char) (name : String) : Prop :=
  ∃ opening blanks word spaces level after,
    cs = markerText opening blanks (word ++ spaces) level ++ after ∧
      IsMarker opening blanks (word ++ spaces) level after ∧
      (1 ≤ Nat.ofDigitChars 10 level 0 ∧ Nat.ofDigitChars 10 level 0 ≤ 20) ∧
      (∃ c ∈ word.getLast?, c.isAlpha) ∧ (∀ c ∈ spaces, c = ' ') ∧ name = String.ofList word

/-- The name that is marked at the start of a text. -/
def marked? (cs : List Char) : Option String :=
  (marker? cs).bind fun found =>
    if isCharacterLevel found.1.2 then some (String.ofList (Text.trimChars found.1.1)) else none

theorem markedNames_eq (cs : List Char) : markedNames cs = cs.tails.filterMap marked? := by
  rw [markedNames, marks_marker?, List.filter_filterMap, List.map_filterMap]
  apply List.filterMap_congr
  intro rest _
  cases hmarker : marker? rest with
  | none => simp [marked?, hmarker]
  | some found =>
      obtain ⟨⟨name, level⟩, length⟩ := found
      by_cases hlevel : isCharacterLevel level <;> simp [marked?, hmarker, hlevel]

theorem isCharacterLevel_iff {level : List Char} : isCharacterLevel level ↔
    1 ≤ Nat.ofDigitChars 10 level 0 ∧ Nat.ofDigitChars 10 level 0 ≤ 20 := by
  simp [isCharacterLevel]

/-- Trimming the name of a marker takes the spaces at its end and nothing else. -/
theorem OpensMarker.exists_spaces {opening : Char} {blanks name : List Char}
    (hopens : OpensMarker opening blanks name) :
    ∃ spaces, name = Text.trimChars name ++ spaces ∧
      (∃ c ∈ (Text.trimChars name).getLast?, c.isAlpha) ∧ ∀ c ∈ spaces, c = ' ' := by
  obtain ⟨first, hfirst, hletter⟩ := hopens.first
  have hhead : ∀ c ∈ name.head?, Text.isSpace c = false := by
    intro c hc
    obtain rfl := Option.mem_unique hc hfirst
    simpa using Text.not_isSpace_of_isAlpha hletter
  obtain ⟨spaces, hname, hspaces⟩ := Text.exists_append_trimChars hhead
  have hletters : ∀ c ∈ Text.trimChars name ++ spaces, c.isAlpha ∨ c = ' ' := by
    rw [← hname]
    exact hopens.letters
  refine ⟨spaces, hname, ?_, fun c hc => ?_⟩
  · cases hlast : (Text.trimChars name).getLast? with
    | none =>
        have hblank := Text.trimChars_eq_nil_iff.mp (List.getLast?_eq_none_iff.mp hlast)
        exact absurd (hblank first (List.mem_of_mem_head? hfirst))
          (Text.not_isSpace_of_isAlpha hletter)
    | some last =>
        refine ⟨last, rfl, ?_⟩
        rcases hletters last (List.mem_append_left _ (List.mem_of_getLast? hlast)) with h | rfl
        · exact h
        · exact absurd rfl (Text.getLast?_trimChars hlast)
  · rcases hletters c (List.mem_append_right _ hc) with h | h
    · exact absurd (hspaces c hc) (Text.not_isSpace_of_isAlpha h)
    · exact h

theorem marked?_eq_some_iff {cs : List Char} {name : String} :
    marked? cs = some name ↔ MarksName cs name := by
  rw [marked?, Option.bind_eq_some_iff]
  constructor
  · rintro ⟨⟨⟨full, level⟩, length⟩, hmarker, hname⟩
    dsimp only at hname
    split at hname
    case isFalse => cases hname
    case isTrue hlevel =>
      cases hname
      obtain ⟨opening, blanks, after, rfl, hmark, -⟩ := marker?_eq_some_iff.mp hmarker
      obtain ⟨spaces, hname, hlast, hspaces⟩ := hmark.exists_spaces
      refine ⟨opening, blanks, Text.trimChars full, spaces, level, after, ?_, ?_,
        isCharacterLevel_iff.mp hlevel, hlast, hspaces, rfl⟩
      · rw [← hname]
      · rwa [← hname]
  · rintro ⟨opening, blanks, word, spaces, level, after, rfl, hmark, hlevel, hlast, hspaces, rfl⟩
    refine ⟨_, marker?_eq_some_iff.mpr ⟨opening, blanks, after, rfl, hmark, rfl⟩, ?_⟩
    dsimp only
    obtain ⟨last, hlast, hletter⟩ := hlast
    have hword : word ≠ [] := by
      rintro rfl
      cases hlast
    obtain ⟨first, hfirst, hstart⟩ := hmark.first
    rw [List.head?_append_of_ne_nil _ hword] at hfirst
    rw [if_pos (isCharacterLevel_iff.mpr hlevel), Text.trimChars_append hword]
    · intro c hc
      obtain rfl := Option.mem_unique hc hfirst
      simpa using Text.not_isSpace_of_isAlpha hstart
    · intro c hc
      obtain rfl := Option.mem_unique hc hlast
      simpa using Text.not_isSpace_of_isAlpha hletter
    · intro c hc
      rw [hspaces c hc]
      rfl

/-- A number of three or more digits marks nothing, nor does one that is no level. -/
theorem marked?_eq_none {opening : Char} {blanks name level after : List Char}
    (hopens : OpensMarker opening blanks name) (hdigits : ∀ c ∈ level, c.isDigit)
    (hafter : ∀ c ∈ after.head?, ¬c.isDigit)
    (hlevel : 3 ≤ level.length ∨ 20 < Nat.ofDigitChars 10 level 0) :
    marked? (markerText opening blanks name level ++ after) = none := by
  have hne : level ≠ [] := by
    rintro rfl
    simp [Nat.ofDigitChars] at hlevel
  rw [marked?, marker?_markerText hopens hne hdigits (by simpa using hafter)]
  split
  case isFalse => rfl
  case isTrue hread =>
    have hhigh : ¬isCharacterLevel level := by
      rw [isCharacterLevel_iff]
      omega
    exact if_neg hhigh

/-- The subclasses are the names that are marked anywhere in the text and are no base classes, each
once and in the order in which they are first marked.  A number of three or more digits and a number
above twenty mark nothing where they stand. -/
theorem subclasses_of_markers (text : String) :
    (ofText text).subclasses.Nodup ∧
      (∀ name, name ∈ (ofText text).subclasses ↔
        name ∉ (ofText text).baseClasses ∧
          ∃ before rest, text.toList = before ++ rest ∧ MarksName rest name) ∧
      (ofText text).subclasses =
        ((text.toList.tails.filterMap marked?).filter fun name =>
          !(ofText text).baseClasses.contains name).eraseDups ∧
      (∀ rest name, marked? rest = some name ↔ MarksName rest name) ∧
      ∀ opening blanks name level after, OpensMarker opening blanks name →
        (∀ c ∈ level, c.isDigit) → (∀ c ∈ after.head?, ¬c.isDigit) →
        3 ≤ level.length ∨ 20 < Nat.ofDigitChars 10 level 0 →
        ∀ other, ¬MarksName (markerText opening blanks name level ++ after) other := by
  have hsubclasses : (ofText text).subclasses =
      ((text.toList.tails.filterMap marked?).filter fun name =>
        !(ofText text).baseClasses.contains name).eraseDups := by
    rw [← markedNames_eq]
    rfl
  refine ⟨?_, ?_, hsubclasses, fun rest name => marked?_eq_some_iff, ?_⟩
  · rw [hsubclasses]
    exact nodup_eraseDups _
  · intro name
    rw [hsubclasses, List.mem_eraseDups, List.mem_filter, List.mem_filterMap]
    simp only [List.mem_tails, marked?_eq_some_iff, Bool.not_eq_true', List.contains_eq_mem,
      decide_eq_false_iff_not]
    constructor
    · rintro ⟨⟨rest, ⟨before, htext⟩, hmarks⟩, hbase⟩
      exact ⟨hbase, before, rest, htext.symm, hmarks⟩
    · rintro ⟨hbase, before, rest, htext, hmarks⟩
      exact ⟨⟨rest, ⟨before, htext.symm⟩, hmarks⟩, hbase⟩
  · intro opening blanks name level after hopens hdigits hafter hlevel other hmarks
    have hnone := marked?_eq_none hopens hdigits hafter hlevel
    rw [marked?_eq_some_iff.mpr hmarks] at hnone
    cases hnone

end SheetImport.ClassFeatures
