import SheetImport.Proofs.ClassFeatures.Marks
import SheetImport.Proofs.Text.Spans

/-!
# Grants that are found

A first-level grant is an opening bracket, a name, a blank and a one that no digit follows.  The scan
for grants takes the character behind the one as part of the grant.  So it does not see a grant at
the end of the text, and a grant directly behind one that it has counted has lost its bracket.  All
others are found, and the names of those that are not found are left to the subclasses.
-/

namespace SheetImport

/-- Each element stays once, where it came first. -/
theorem nodup_eraseDups {α : Type} [BEq α] [LawfulBEq α] (xs : List α) : xs.eraseDups.Nodup := by
  cases xs with
  | nil => simp
  | cons x rest =>
      rw [List.eraseDups_cons, List.nodup_cons]
      exact ⟨by simp [List.mem_eraseDups], nodup_eraseDups _⟩
termination_by xs.length
decreasing_by exact Nat.lt_succ_of_le (List.length_filter_le _ _)

namespace ClassFeatures

/-! ## Grants in a text -/

/-- The text of a first-level grant of a name. -/
def grantText (name : List Char) : List Char :=
  '(' :: (name ++ [' ', '1'])

@[simp] theorem length_grantText (name : List Char) :
    (grantText name).length = name.length + 3 := by
  simp [grantText]

/-- Whether text of that form is a grant: the name is made of letters, and the one behind it is not
the first digit of a larger number. -/
structure IsGrant (name after : List Char) : Prop where
  nonempty : name ≠ []
  letters : ∀ c ∈ name, c.isAlpha
  level : ∀ c ∈ after.head?, ¬c.isDigit

/-- The name in the grant that begins here, if one does. -/
def granted? : List Char → Option (List Char)
  | '(' :: rest =>
      match rest.dropWhile Char.isAlpha with
      | ' ' :: '1' :: after =>
          if rest.takeWhile Char.isAlpha ≠ [] ∧ !after.head?.any Char.isDigit then
            some (rest.takeWhile Char.isAlpha)
          else none
      | _ => none
  | _ => none

/-- The names in all grants of a text, each once, in order. -/
def allGranted (cs : List Char) : List String :=
  ((cs.tails.filterMap granted?).map String.ofList).eraseDups

theorem takeWhile_letters {name : List Char} (hletters : ∀ c ∈ name, c.isAlpha)
    (rest : List Char) : (name ++ ' ' :: rest).takeWhile Char.isAlpha = name :=
  Text.takeWhile_span hletters (by rintro c ⟨⟩; rfl)

theorem dropWhile_letters {name : List Char} (hletters : ∀ c ∈ name, c.isAlpha)
    (rest : List Char) : (name ++ ' ' :: rest).dropWhile Char.isAlpha = ' ' :: rest :=
  Text.dropWhile_span hletters (by rintro c ⟨⟩; rfl)

theorem cons_eq_grantText {rest after : List Char}
    (hafter : rest.dropWhile Char.isAlpha = ' ' :: '1' :: after) :
    '(' :: rest = grantText (rest.takeWhile Char.isAlpha) ++ after := by
  have hrest := List.takeWhile_append_dropWhile (p := Char.isAlpha) (l := rest)
  rw [hafter] at hrest
  rw [grantText, List.cons_append, List.append_assoc]
  exact congrArg _ hrest.symm

theorem granted?_eq_some_iff {cs name : List Char} :
    granted? cs = some name ↔ ∃ after, cs = grantText name ++ after ∧ IsGrant name after := by
  constructor
  · intro h
    unfold granted? at h
    split at h
    case h_2 => cases h
    split at h
    case h_2 => cases h
    case h_1 rest _ after hafter =>
      split at h
      case isFalse => cases h
      case isTrue hgrant =>
        cases h
        refine ⟨after, cons_eq_grantText hafter, hgrant.1, fun c => List.mem_takeWhile_imp, ?_⟩
        intro c hc
        have hlevel := hgrant.2
        rw [Option.mem_def] at hc
        simpa [hc] using hlevel
  · rintro ⟨after, rfl, hgrant⟩
    unfold granted?
    simp only [grantText, List.cons_append, List.append_assoc, List.nil_append,
      takeWhile_letters hgrant.letters, dropWhile_letters hgrant.letters]
    rw [if_pos]
    refine ⟨hgrant.nonempty, ?_⟩
    cases hhead : after.head? with
    | none => rfl
    | some c => simpa using hgrant.level c hhead

/-- A scan sees the grants that a character follows, and takes that character with them. -/
theorem grant?_eq_some_iff {cs name : List Char} {length : Nat} :
    grant? cs = some (name, length) ↔
      ∃ c after, cs = grantText name ++ c :: after ∧ IsGrant name (c :: after) ∧
        length = name.length + 4 := by
  constructor
  · intro h
    unfold grant? at h
    split at h
    case h_2 => cases h
    dsimp only at h
    split at h
    case h_2 => cases h
    case h_1 rest _ c after hafter =>
      split at h
      case isFalse => cases h
      case isTrue hgrant =>
        cases h
        refine ⟨c, after, cons_eq_grantText hafter, ⟨hgrant.1, fun c => List.mem_takeWhile_imp, ?_⟩,
          rfl⟩
        rintro d ⟨⟩
        simpa using hgrant.2
  · rintro ⟨c, after, rfl, hgrant, rfl⟩
    unfold grant?
    simp only [grantText, List.cons_append, List.append_assoc, List.nil_append,
      takeWhile_letters hgrant.letters, dropWhile_letters hgrant.letters]
    rw [if_pos ⟨hgrant.nonempty, by simpa using hgrant.level c rfl⟩]

theorem takesText_grant? : TakesText grant? where
  nil := rfl
  pos := by
    intro cs name length h
    obtain ⟨-, -, -, -, rfl⟩ := grant?_eq_some_iff.mp h
    omega

/-! ## Grants that are counted -/

/-- A bracket inside a grant's text is the one it begins with. -/
theorem prefix_of_bracket {name inner rest after : List Char} (hletters : ∀ c ∈ name, c.isAlpha)
    (hinner : inner ≠ []) (h : inner ++ '(' :: rest = grantText name ++ after) :
    ∃ more, inner = grantText name ++ more ∧ after = more ++ '(' :: rest := by
  rcases List.append_eq_append_iff.mp h with ⟨more, hname, hrest⟩ | ⟨more, hinner', hafter⟩
  · cases more with
    | nil => exact ⟨[], by simpa using hname.symm, by simpa using hrest.symm⟩
    | cons c others =>
        obtain ⟨first, begun, rfl⟩ := List.exists_cons_of_ne_nil hinner
        rw [grantText, List.cons_append] at hname
        have hmem : '(' ∈ name ++ [' ', '1'] := by
          rw [(List.cons.inj hname).2, (List.cons.inj hrest).1]
          simp
        rcases List.mem_append.mp hmem with hin | hin
        · exact absurd (hletters _ hin) (by decide)
        · exact absurd hin (by decide)
  · exact ⟨more, hinner', hafter⟩

/-- The place of a grant is free unless a grant that is counted stands directly before it. -/
theorem isFree_grantText_iff {before name after : List Char} :
    IsFree grant? before (grantText name ++ after) ↔
      ∀ earlier other, before = earlier ++ grantText other →
        IsGrant other (grantText name ++ after) →
        ¬IsFree grant? earlier (grantText other ++ (grantText name ++ after)) := by
  constructor
  · rintro hfree earlier other rfl hgrant hearlier
    have hother : grant? (grantText other ++ (grantText name ++ after)) =
        some (other, other.length + 4) :=
      grant?_eq_some_iff.mpr ⟨'(', _, rfl, hgrant, rfl⟩
    refine not_isFree_of_lt (List.cons_ne_nil _ _) hearlier hother ?_ hfree
    simp
  · intro hbehind
    rw [IsFree]
    intro earlier inner hbefore hinner hearlier other length hother
    obtain ⟨c, rest, hsplit, hgrant, rfl⟩ := grant?_eq_some_iff.mp hother
    have hbracket := hsplit
    rw [grantText, List.cons_append] at hbracket
    obtain ⟨more, rfl, hmore⟩ := prefix_of_bracket hgrant.letters hinner hbracket
    cases more with
    | nil =>
        rw [List.append_nil] at hbefore hearlier
        rw [hmore] at hgrant
        exact absurd hearlier (hbehind earlier other hbefore hgrant)
    | cons d more =>
        rw [List.length_append, length_grantText, List.length_cons]
        omega

/-- Where no grant stands at the end of the text or directly before another one, all are counted. -/
theorem marks_grant?_of_apart {cs : List Char}
    (hapart : ∀ before name after, cs = before ++ (grantText name ++ after) → IsGrant name after →
      after ≠ [] ∧ granted? after = none) :
    marks grant? 0 cs = cs.tails.filterMap granted? := by
  rw [marks_eq_filterMap_places takesText_grant?, ← filterMap_placesFrom rfl [], places]
  apply List.filterMap_congr
  rintro ⟨before, rest⟩ hplace
  obtain ⟨hcs, -⟩ := mem_places.mp hplace
  cases hgranted : granted? rest with
  | none =>
      have hnone : ∀ name, counted? grant? (before, rest) ≠ some name := by
        intro name hcounted
        obtain ⟨-, length, hgrant⟩ := counted?_eq_some_iff.mp hcounted
        obtain ⟨c, after, hrest, hname, -⟩ := grant?_eq_some_iff.mp hgrant
        have hsome : granted? rest = some name := granted?_eq_some_iff.mpr ⟨_, hrest, hname⟩
        cases hgranted.symm.trans hsome
      exact Option.eq_none_iff_forall_ne_some.mpr hnone
  | some name =>
      obtain ⟨after, rfl, hname⟩ := granted?_eq_some_iff.mp hgranted
      obtain ⟨c, more, rfl⟩ := List.exists_cons_of_ne_nil (hapart before name after hcs hname).1
      refine counted?_eq_some_iff.mpr
        ⟨isFree_grantText_iff.mpr ?_, _, grant?_eq_some_iff.mpr ⟨c, more, rfl, hname, rfl⟩⟩
      rintro earlier other rfl hother
      rw [List.append_assoc] at hcs
      have hnone := (hapart earlier other _ hcs hother).2
      cases hnone.symm.trans hgranted

theorem not_mem_subclasses {text name : String} (hbase : name ∈ (ofText text).baseClasses) :
    name ∉ (ofText text).subclasses := by
  intro hsub
  obtain ⟨-, hnot⟩ := List.mem_filter.mp (List.mem_eraseDups.mp hsub)
  simp only [Bool.not_eq_true', List.contains_eq_mem, decide_eq_false_iff_not] at hnot
  exact hnot hbase

/-- The base classes are the names in the grants that a character follows and that do not stand
directly behind a grant that is counted.  So where no grant ends the text or stands directly before
another one, they are the names in all grants, and none of these is taken for a subclass. -/
theorem baseClasses_of_grants (text : String) :
    (ofText text).baseClasses.Nodup ∧
      (∀ name, name ∈ (ofText text).baseClasses ↔
        ∃ before word c after, text.toList = before ++ (grantText word ++ c :: after) ∧
          IsGrant word (c :: after) ∧ IsFree grant? before (grantText word ++ c :: after) ∧
          name = String.ofList word) ∧
      ((∀ before word after, text.toList = before ++ (grantText word ++ after) →
          IsGrant word after → after ≠ [] ∧ granted? after = none) →
        (ofText text).baseClasses = allGranted text.toList ∧
          ∀ name ∈ allGranted text.toList, name ∉ (ofText text).subclasses) := by
  refine ⟨nodup_eraseDups _, fun name => ?_, fun hapart => ?_⟩
  · have hbase : (ofText text).baseClasses =
        ((marks grant? 0 text.toList).map String.ofList).eraseDups := rfl
    rw [hbase, List.mem_eraseDups, List.mem_map]
    simp only [mem_marks_iff takesText_grant?]
    constructor
    · rintro ⟨word, ⟨before, rest, hcs, hfree, length, hgrant⟩, rfl⟩
      obtain ⟨c, after, rfl, hword, -⟩ := grant?_eq_some_iff.mp hgrant
      exact ⟨before, word, c, after, hcs, hword, hfree, rfl⟩
    · rintro ⟨before, word, c, after, hcs, hword, hfree, rfl⟩
      exact ⟨word, ⟨before, _, hcs, hfree, _,
        grant?_eq_some_iff.mpr ⟨c, after, rfl, hword, rfl⟩⟩, rfl⟩
  · have hbase : (ofText text).baseClasses = allGranted text.toList := by
      rw [allGranted, ← marks_grant?_of_apart hapart]
      rfl
    exact ⟨hbase, fun name hname => not_mem_subclasses (hbase ▸ hname)⟩

/-- A grant that ends the text is not found, nor is one directly behind another.  The names are then
taken for subclasses. -/
theorem grants_can_be_lost :
    (allGranted "level 1: Rage (Barbarian 1".toList = ["Barbarian"] ∧
      (ofText "level 1: Rage (Barbarian 1").baseClasses = [] ∧
      (ofText "level 1: Rage (Barbarian 1").subclasses = ["Barbarian"]) ∧
    allGranted "(Fighter 1(Wizard 1)".toList = ["Fighter", "Wizard"] ∧
      (ofText "(Fighter 1(Wizard 1)").baseClasses = ["Fighter"] ∧
      (ofText "(Fighter 1(Wizard 1)").subclasses = ["Wizard"] := by
  decide

end ClassFeatures

end SheetImport
