import SheetImport.Extract
import SheetImport.Proofs.ClassFeatures.Grants
import SheetImport.Proofs.Text.Spans

/-!
# The class that a summary describes

A summary describes a class if it has a level mark and a first-level grant, wherever they stand.  Of
several marks of a kind the leftmost one counts: it tells the level or the name of the class.
-/

namespace SheetImport

namespace ClassFeatures

/-! ## Level marks -/

/-- The text of a level mark. -/
def levelText (level : List Char) : List Char :=
  ['l', 'e', 'v', 'e', 'l', ' '] ++ (level ++ [':'])

/-- Whether a level mark begins a text and tells that level. -/
def TellsLevel (cs level : List Char) : Prop :=
  ∃ after, cs = levelText level ++ after ∧ level ≠ [] ∧ ∀ c ∈ level, c.isDigit

/-- Whether a first-level grant with a character behind it begins a text and names that class. -/
def NamesClass (cs name : List Char) : Prop :=
  ∃ c after, cs = grantText name ++ c :: after ∧ IsGrant name (c :: after)

theorem behind?_eq_some_iff {start cs rest : List Char} :
    behind? start cs = some rest ↔ cs = start ++ rest := by
  induction start generalizing cs with
  | nil => simp [behind?]
  | cons first start ih =>
      cases cs with
      | nil => simp [behind?]
      | cons c cs =>
          rw [behind?, List.cons_append, List.cons.injEq]
          split
          case isTrue hfirst => rw [ih, and_iff_right hfirst.symm]
          case isFalse hfirst => simp [Ne.symm hfirst]

theorem levelMark?_eq_some_iff {cs level : List Char} :
    levelMark? cs = some level ↔ TellsLevel cs level := by
  rw [levelMark?, Option.bind_eq_some_iff]
  simp only [behind?_eq_some_iff]
  constructor
  · rintro ⟨rest, rfl, hlevel⟩
    split at hlevel
    case isFalse => cases hlevel
    case isTrue hmark =>
      cases hlevel
      obtain ⟨after, hafter⟩ := List.head?_eq_some_iff.mp hmark.2
      refine ⟨after, ?_, hmark.1, fun c => List.mem_takeWhile_imp⟩
      have hrest := List.takeWhile_append_dropWhile (p := Char.isDigit) (l := rest)
      rw [hafter] at hrest
      rw [levelText, List.append_assoc, List.append_assoc, List.singleton_append, hrest]
  · rintro ⟨after, rfl, hne, hdigits⟩
    have hcolon : ∀ c ∈ (':' :: after).head?, c.isDigit = false := by
      rintro c ⟨⟩
      rfl
    refine ⟨level ++ ':' :: after, by simp [levelText], ?_⟩
    rw [Text.takeWhile_span hdigits hcolon, Text.dropWhile_span hdigits hcolon]
    exact if_pos ⟨hne, rfl⟩

theorem firstLevel?_eq_findSome? (cs : List Char) :
    firstLevel? cs = cs.tails.findSome? levelMark? := by
  induction cs with
  | nil => rfl
  | cons c rest ih =>
      rw [firstLevel?, List.tails_cons, List.findSome?_cons, ih]
      cases levelMark? (c :: rest) <;> rfl

/-! ## The leftmost of each kind -/

/-- Whether that is what is told at the leftmost place of a text at which anything of the kind is. -/
def IsLeftmost (tells : List Char → List Char → Prop) (cs found : List Char) : Prop :=
  ∃ before rest, cs = before ++ rest ∧ tells rest found ∧
    ∀ earlier inner, before = earlier ++ inner → inner ≠ [] → ∀ other, ¬tells (inner ++ rest) other

theorem firstLevel?_eq_some_iff {cs level : List Char} :
    firstLevel? cs = some level ↔ IsLeftmost TellsLevel cs level := by
  rw [firstLevel?_eq_findSome?, findSome?_tails_eq_some_iff]
  simp only [Option.eq_none_iff_forall_ne_some, ne_eq, levelMark?_eq_some_iff, IsLeftmost]

theorem head?_eraseDups {α : Type} [BEq α] [LawfulBEq α] (xs : List α) :
    xs.eraseDups.head? = xs.head? := by
  cases xs with
  | nil => simp
  | cons x rest => rw [List.eraseDups_cons, List.head?_cons, List.head?_cons]

theorem map_grant?_eq_some_iff {cs name : List Char} :
    (grant? cs).map Prod.fst = some name ↔ NamesClass cs name := by
  rw [Option.map_eq_some_iff]
  constructor
  · rintro ⟨⟨word, length⟩, hgrant, rfl⟩
    obtain ⟨c, after, hcs, hname, -⟩ := grant?_eq_some_iff.mp hgrant
    exact ⟨c, after, hcs, hname⟩
  · rintro ⟨c, after, hcs, hname⟩
    exact ⟨(name, _), grant?_eq_some_iff.mpr ⟨c, after, hcs, hname, rfl⟩, rfl⟩

theorem head?_baseClasses_eq_some_iff {text name : String} :
    (ofText text).baseClasses.head? = some name ↔
      ∃ word, IsLeftmost NamesClass text.toList word ∧ String.ofList word = name := by
  have hbase : (ofText text).baseClasses =
      ((marks grant? 0 text.toList).map String.ofList).eraseDups := rfl
  rw [hbase, head?_eraseDups, List.head?_map, head?_marks rfl, Option.map_eq_some_iff]
  simp only [findSome?_tails_eq_some_iff, Option.eq_none_iff_forall_ne_some, ne_eq,
    map_grant?_eq_some_iff, IsLeftmost]

/-- Where anything of a kind stands, there is a leftmost place of it. -/
theorem exists_isLeftmost_iff {tells : List Char → List Char → Prop}
    {read? : List Char → Option (List Char)}
    (hread : ∀ cs found, read? cs = some found ↔ tells cs found) (cs : List Char) :
    (∃ found, IsLeftmost tells cs found) ↔
      ∃ before rest found, cs = before ++ rest ∧ tells rest found := by
  constructor
  · rintro ⟨found, before, rest, hcs, htells, -⟩
    exact ⟨before, rest, found, hcs, htells⟩
  · rintro ⟨before, rest, found, hcs, htells⟩
    have hmem : rest ∈ cs.tails := (List.mem_tails _ _).mpr ⟨before, hcs.symm⟩
    have hsome : (cs.tails.findSome? read?).isSome := by
      rw [List.findSome?_isSome_iff]
      exact ⟨rest, hmem, by rw [(hread rest found).mpr htells]; rfl⟩
    obtain ⟨first, hfirst⟩ := Option.isSome_iff_exists.mp hsome
    obtain ⟨start, behind, hsplit, hbehind, hnone⟩ := findSome?_tails_eq_some_iff.mp hfirst
    refine ⟨first, start, behind, hsplit, (hread _ _).mp hbehind, ?_⟩
    intro earlier inner hstart hinner other hother
    cases (hnone earlier inner hstart hinner).symm.trans ((hread _ _).mpr hother)

/-- Whether a text describes a class: the leftmost level mark tells its level, the leftmost grant
its name, and the first subclass, if there is one, is another name. -/
def Describes (text : String) (item : Item) : Prop :=
  ∃ level name, IsLeftmost TellsLevel text.toList level ∧ IsLeftmost NamesClass text.toList name ∧
    item = ⟨.classLevels, String.ofList name, some (String.ofList level),
      (ofText text).subclasses.head?⟩ ∧
    item.subclass ≠ some item.name

theorem level_eq_some_iff {text level : String} :
    (ofText text).level = some level ↔
      ∃ digits, IsLeftmost TellsLevel text.toList digits ∧ String.ofList digits = level := by
  have hlevel : (ofText text).level = (firstLevel? text.toList).map String.ofList := rfl
  rw [hlevel, Option.map_eq_some_iff]
  simp only [firstLevel?_eq_some_iff]

theorem item?_of_parts {features : ClassFeatures} {item : Item} :
    features.item? = some item ↔
      ∃ level name, features.level = some level ∧ features.baseClasses.head? = some name ∧
        item = ⟨.classLevels, name, some level, features.subclasses.head?⟩ := by
  obtain ⟨level, baseClasses, subclasses⟩ := features
  cases level <;> cases baseClasses <;> simp [item?, eq_comm]

/-- The class that is read from a summary is the one that the text describes. -/
theorem item?_eq_some_iff {text : String} {item : Item} :
    (ofText text).item? = some item ↔ Describes text item := by
  rw [item?_of_parts]
  constructor
  · rintro ⟨level, name, hlevel, hname, rfl⟩
    obtain ⟨digits, hdigits, rfl⟩ := level_eq_some_iff.mp hlevel
    obtain ⟨word, hword, rfl⟩ := head?_baseClasses_eq_some_iff.mp hname
    refine ⟨digits, word, hdigits, hword, rfl, fun hsubclass => ?_⟩
    exact not_mem_subclasses (List.mem_of_mem_head? hname) (List.mem_of_mem_head? hsubclass)
  · rintro ⟨digits, word, hdigits, hword, rfl, -⟩
    exact ⟨_, _, level_eq_some_iff.mpr ⟨digits, hdigits, rfl⟩,
      head?_baseClasses_eq_some_iff.mpr ⟨word, hword, rfl⟩, rfl⟩

/-- A text describes a class just if it has a level mark and a grant anywhere. -/
theorem exists_describes_iff {text : String} :
    (∃ item, Describes text item) ↔
      (∃ before rest level, text.toList = before ++ rest ∧ TellsLevel rest level) ∧
        ∃ before rest name, text.toList = before ++ rest ∧ NamesClass rest name := by
  rw [← exists_isLeftmost_iff (fun _ _ => levelMark?_eq_some_iff),
    ← exists_isLeftmost_iff (fun _ _ => map_grant?_eq_some_iff)]
  constructor
  · rintro ⟨item, level, name, hlevel, hname, -⟩
    exact ⟨⟨level, hlevel⟩, name, hname⟩
  · rintro ⟨⟨level, hlevel⟩, name, hname⟩
    have hclass := level_eq_some_iff.mpr ⟨level, hlevel, rfl⟩
    have hbase := head?_baseClasses_eq_some_iff.mpr ⟨name, hname, rfl⟩
    exact ⟨_, item?_eq_some_iff.mp (item?_of_parts.mpr ⟨_, _, hclass, hbase, rfl⟩)⟩

end ClassFeatures

/-! ## The extractor -/

namespace Extractor

/-- Whether the field with the class features summary holds that text. -/
def HasSummary (source : Source) (text : String) : Prop :=
  source.get? classFeaturesField = some (.text text)

theorem classOfSummary_of_hasSummary {source : Source} {text : String}
    (h : HasSummary source text) :
    classOfSummary source = (ClassFeatures.ofText text).item?.toList := by
  rw [classOfSummary, h]
  rfl

theorem classOfSummary_of_not_hasSummary {source : Source}
    (h : ∀ text, ¬HasSummary source text) : classOfSummary source = [] := by
  rw [classOfSummary]
  split
  case h_2 => rfl
  case h_1 text hsummary =>
    obtain ⟨value, hvalue, htext⟩ := Option.bind_eq_some_iff.mp hsummary
    cases value <;> cases htext
    exact absurd hvalue (h text)

/-- Taking the class from a summary never fails.  It gives the one class that the summary describes,
and it gives none just if there is no text in the field or the text lacks a level mark or a grant. -/
theorem freeTextClass_describes (source : Source) :
    ∃ items, freeTextClass.run source = .ok items ∧
      (items ≠ [] ↔ ∃ text, HasSummary source text ∧
        (∃ before rest level, text.toList = before ++ rest ∧ ClassFeatures.TellsLevel rest level) ∧
        ∃ before rest name, text.toList = before ++ rest ∧ ClassFeatures.NamesClass rest name) ∧
      ∀ item ∈ items,
        items = [item] ∧ ∃ text, HasSummary source text ∧ ClassFeatures.Describes text item := by
  refine ⟨classOfSummary source, rfl, ?_⟩
  simp only [← ClassFeatures.exists_describes_iff, ← ClassFeatures.item?_eq_some_iff]
  by_cases hsummary : ∃ text, HasSummary source text
  · obtain ⟨text, htext⟩ := hsummary
    rw [classOfSummary_of_hasSummary htext]
    have hunique : ∀ other, HasSummary source other → other = text := by
      intro other hother
      cases hother.symm.trans htext
      rfl
    cases hitem : (ClassFeatures.ofText text).item? with
    | none =>
        refine ⟨⟨fun h => absurd rfl h, ?_⟩, fun item hmem => nomatch hmem⟩
        rintro ⟨other, hother, item, hfound⟩
        rw [hunique other hother, hitem] at hfound
        cases hfound
    | some item =>
        refine ⟨⟨fun _ => ⟨text, htext, item, hitem⟩, fun _ => List.cons_ne_nil _ _⟩, ?_⟩
        intro other hother
        obtain rfl := List.mem_singleton.mp hother
        exact ⟨rfl, text, htext, hitem⟩
  · have hnone : classOfSummary source = [] :=
      classOfSummary_of_not_hasSummary fun text htext => hsummary ⟨text, htext⟩
    rw [hnone]
    refine ⟨⟨fun h => absurd rfl h, ?_⟩, fun item hmem => nomatch hmem⟩
    rintro ⟨text, htext, -⟩
    exact absurd ⟨text, htext⟩ hsummary

end Extractor

end SheetImport
