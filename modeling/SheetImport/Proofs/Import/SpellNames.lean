import SheetImport.Proofs.ClassFeatures.Grants
import SheetImport.Proofs.Decimal.PlainText
import SheetImport.Proofs.Import.Failures
import SheetImport.Proofs.Pattern.Words
import SheetImport.Proofs.Text.Trimming

/-!
# The spells of a form

A form keeps the names of its spells in the fields of repeated spell sheets.  A pattern says which
fields these are.  It finds all of them: a field is one just when the middle part of such a name
stands anywhere in its own.
-/

namespace SheetImport

/-! ## The fields of spell names -/

/-- Whether anywhere in a name there is the mark of a spell sheet, a word of letters, and the path of
a spell name. -/
def IsSpellField (name : String) : Prop :=
  ∃ before word after,
    name.toList = before ++ (".SS".toList ++ (word ++ (".spells.name".toList ++ after))) ∧
      word ≠ [] ∧ ∀ c ∈ word, c.isAlpha

namespace Pattern

/-- The pattern for the names of spell fields, as it is read. -/
def spellName : Pattern :=
  ⟨.thenText (.sequence (.thenText (.set (.single '.')) "SS") (.repeated 1 none (.set .letters)))
    ".spells.name"⟩

theorem parse_spellNamePattern : parse Extractor.spellNamePattern = .ok spellName := by
  rfl

theorem hasWord_spellName (all : List Char) :
    spellName.node.HasWord all ↔
      ∃ word, all = ".SS".toList ++ (word ++ ".spells.name".toList) ∧
        word ≠ [] ∧ ∀ c ∈ word, c.isAlpha := by
  rw [spellName, Node.hasWord_thenText]
  constructor
  · rintro ⟨_, rfl, _, word, rfl, hmark, hword⟩
    obtain ⟨_, rfl, c, rfl, hc⟩ := (Node.hasWord_thenText _ _ _).mp hmark
    obtain rfl := (CharSet.contains_single _ _).mp hc
    simp only [Node.hasWord_atLeastOne, CharSet.contains_letters] at hword
    exact ⟨word, List.append_assoc _ _ _, hword⟩
  · rintro ⟨word, rfl, hword⟩
    refine ⟨".SS".toList ++ word, (List.append_assoc _ _ _).symm, _, word, rfl, ?_, ?_⟩
    · exact (Node.hasWord_thenText _ _ _).mpr ⟨['.'], rfl, '.', rfl, rfl⟩
    · simpa only [Node.hasWord_atLeastOne, CharSet.contains_letters] using hword

theorem isMatch_spellName (name : String) : spellName.isMatch name ↔ IsSpellField name := by
  rw [isMatch_iff_hasWord (by rfl)]
  simp only [hasWord_spellName, IsSpellField]
  constructor
  · rintro ⟨before, _, after, hname, word, rfl, hword⟩
    exact ⟨before, word, after, by simpa using hname, hword⟩
  · rintro ⟨before, word, after, hname, hword⟩
    exact ⟨before, _, after, by simpa using hname, word, rfl, hword⟩

end Pattern

/-! ## The spells -/

/-- The text that shows a scalar.  Nothing shows null, a list or an object. -/
inductive Value.ShowsAs : Value → String → Prop
  | text {s : String} : ShowsAs (.text s) s
  | integer {n : Int64} {shown : String} (hwrites : Decimal.WritesInt n.toInt shown.toList) :
      ShowsAs (.integer n) shown
  | float {x : Float} {shown : String}
      (hwrites : Decimal.WritesFloat x.toModel.unpack shown.toList) : ShowsAs (.float x) shown
  | yes : ShowsAs (.boolean true) "true"
  | no : ShowsAs (.boolean false) "false"

theorem Value.display?_eq_some_iff {value : Value} {shown : String} :
    value.display? = some shown ↔ value.ShowsAs shown := by
  constructor
  · intro h
    cases value with
    | text s => cases h; exact .text
    | integer n => cases h; exact .integer (writesInt_iff.mpr rfl)
    | float x => cases h; exact .float (writesFloat_iff.mpr rfl)
    | boolean b =>
        cases h
        cases b
        · exact .no
        · exact .yes
    | null => cases h
    | list items => cases h
    | object members => cases h
  · rintro (_ | hwrites | hwrites | _ | _)
    · rfl
    · exact congrArg some (String.toList_injective (writesInt_iff.mp hwrites)).symm
    · exact congrArg some (String.toList_injective (writesFloat_iff.mp hwrites)).symm
    · rfl
    · rfl

/-- Whether a field of a form gives a spell of that name. -/
def GivesSpell (field : String × Value) (name : String) : Prop :=
  IsSpellField field.1 ∧ ∃ shown, field.2.ShowsAs shown ∧ Text.Trims shown name ∧ name ≠ ""

/-- Whether a field gives a spell of the first name, and neither it nor any before it gives one of
the second. -/
def GivesSpellBefore (sheet : Sheet) (first second : String) : Prop :=
  ∃ before field after, sheet.fields = before ++ field :: after ∧ GivesSpell field first ∧
    ∀ other ∈ before ++ [field], ¬GivesSpell other second

/-! ## Order -/

section Order

variable {α β : Type} {f : α → Option β} {items : List α} {first second : β}

/-- Whether an element of a list gives the first value, and neither it nor any before it gives the
second. -/
def GivenBefore (f : α → Option β) (items : List α) (first second : β) : Prop :=
  ∃ before item after, items = before ++ item :: after ∧ f item = some first ∧
    ∀ other ∈ before ++ [item], f other ≠ some second

theorem GivenBefore.append (h : GivenBefore f items first second) (more : List α) :
    GivenBefore f (items ++ more) first second := by
  obtain ⟨before, item, after, rfl, hitem⟩ := h
  exact ⟨before, item, after ++ more, by rw [List.append_assoc, List.cons_append], hitem⟩

theorem givenBefore_of_mem (hfirst : first ∈ items.filterMap f)
    (hsecond : second ∉ items.filterMap f) : GivenBefore f items first second := by
  obtain ⟨item, hitem, hgives⟩ := List.mem_filterMap.mp hfirst
  obtain ⟨before, after, rfl⟩ := List.append_of_mem hitem
  refine ⟨before, item, after, rfl, hgives, fun other hother hgives => ?_⟩
  rw [List.append_cons] at hsecond
  exact hsecond (List.mem_filterMap.mpr ⟨other, List.mem_append_left _ hother, hgives⟩)

/-- Values that are kept once are in the order of the elements that give them first. -/
theorem pairwise_eraseDups_filterMap [BEq β] [LawfulBEq β] (f : α → Option β) (items : List α) :
    (items.filterMap f).eraseDups.Pairwise (GivenBefore f items) := by
  induction items using List.reverseRecOn with
  | nil => exact List.Pairwise.nil
  | append_singleton items last ih =>
      have hold := ih.imp fun h => h.append [last]
      rw [List.filterMap_append, List.eraseDups_append]
      cases hlast : f last with
      | none => simpa [hlast] using hold
      | some value =>
          have hvalue : [last].filterMap f = [value] := by simp [hlast]
          rw [hvalue]
          by_cases hknown : value ∈ items.filterMap f
          · have hnone : ([value].removeAll (items.filterMap f)).eraseDups = [] := by
              simp [List.removeAll, hknown]
            rwa [hnone, List.append_nil]
          · have hone : ([value].removeAll (items.filterMap f)).eraseDups = [value] := by
              simp [List.removeAll, hknown, List.eraseDups_cons]
            rw [hone, List.pairwise_append]
            refine ⟨hold, List.pairwise_singleton _ _, fun first hfirst second hsecond => ?_⟩
            obtain rfl := List.mem_singleton.mp hsecond
            exact (givenBefore_of_mem (List.mem_eraseDups.mp hfirst) hknown).append [last]

end Order

namespace Extractor

/-- The name of the spell that a field gives. -/
def spellName? (field : String × Value) : Option String :=
  if Pattern.spellName.isMatch field.1 then trimmedDisplay? field.2 else none

theorem spellName?_eq_some_iff {field : String × Value} {name : String} :
    spellName? field = some name ↔ GivesSpell field name := by
  rw [spellName?, GivesSpell, ← Pattern.isMatch_spellName]
  simp only [trimmedDisplay?, ← Value.display?_eq_some_iff, Text.trims_iff,
    Option.ite_none_right_eq_some, Option.filter_eq_some_iff, Option.map_eq_some_iff,
    decide_eq_true_eq, ← exists_and_right, and_assoc, eq_comm (a := name)]

theorem spellList_run (sheet : Sheet) :
    spellList.run sheet.source =
      .ok ((sheet.fields.filterMap spellName?).eraseDups.map Item.spell) := by
  change spellsMatching sheet.source spellNamePattern = _
  have hvalues : (sheet.matching Pattern.spellName).filterMap trimmedDisplay? =
      sheet.fields.filterMap spellName? := by
    rw [Sheet.matching, List.filterMap_map, List.filterMap_filter]
    rfl
  rw [spellsMatching, Pattern.parse_spellNamePattern, ← hvalues]
  rfl

/-- Taking the spells from a form never fails.  It gives one spell for each name that any of its
fields gives, in the order of the fields that give them first. -/
theorem spellList_names (sheet : Sheet) :
    ∃ names : List String,
      spellList.run sheet.source = .ok (names.map fun name =>
        { kind := .spell, name := name, levels := none, subclass := none }) ∧
      names.Nodup ∧ (∀ name, name ∈ names ↔ ∃ field ∈ sheet.fields, GivesSpell field name) ∧
      names.Pairwise (GivesSpellBefore sheet) := by
  refine ⟨_, spellList_run sheet, nodup_eraseDups _, fun name => ?_, ?_⟩
  · simp only [List.mem_eraseDups, List.mem_filterMap, spellName?_eq_some_iff]
  · refine (pairwise_eraseDups_filterMap spellName? sheet.fields).imp fun hbefore => ?_
    simp only [GivenBefore, spellName?_eq_some_iff, ne_eq] at hbefore
    exact hbefore

/-- A form with other scalars than texts in the fields of its spell names. -/
def numberedSpells : Sheet :=
  ⟨[("P1.SSmore.spells.name", .integer (-40)), ("P2.SSmore.spells.name", .float 0.25),
    ("P3.SSmore.spells.name", .boolean true)], by decide⟩

/-- Numbers and boxes give spells as texts do. -/
theorem spellList_names_numberedSpells :
    ∃ names : List String,
      spellList.run numberedSpells.source = .ok (names.map fun name =>
        { kind := .spell, name := name, levels := none, subclass := none }) ∧
      "-40" ∈ names ∧ "0.25" ∈ names ∧ "true" ∈ names := by
  obtain ⟨names, hrun, -, hmem, -⟩ := spellList_names numberedSpells
  refine ⟨names, hrun, (hmem _).mpr ?_, (hmem _).mpr ?_, (hmem _).mpr ?_⟩
  · exact ⟨_, .head _, spellName?_eq_some_iff.mp (by rfl)⟩
  · exact ⟨_, .tail _ (.head _), spellName?_eq_some_iff.mp (by rfl)⟩
  · exact ⟨_, .tail _ (.tail _ (.head _)), spellName?_eq_some_iff.mp (by rfl)⟩

end Extractor

end SheetImport
