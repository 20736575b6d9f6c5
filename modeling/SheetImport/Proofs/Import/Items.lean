import SheetImport.Compendium.Matching
import SheetImport.Proofs.ClassFeatures.Names
import SheetImport.Proofs.Import.Failures

/-!
# The items of an import

The extractors of the built-in formats take a class from a summary or from two fields, and spells
from any number of fields, whatever values these hold.  The items that come out are always fit to be
matched and written: names and details are labels, a class comes first and only once, and no spell
comes twice.
-/

namespace SheetImport

/-- Whether an item is fit to be matched and written. -/
structure Item.WellFormed (item : Item) : Prop where
  name : Text.IsLabel item.name
  levels : ∀ levels ∈ item.levels, Text.IsLabel levels
  subclass : ∀ subclass ∈ item.subclass, Text.IsLabel subclass ∧ subclass ≠ item.name
  spell : item.kind = .spell → item.levels = none ∧ item.subclass = none

/-- Whether items are fit to stand together.  Only the first can be a class, and no two spells have
the same name. -/
structure WellFormedItems (items : List Item) : Prop where
  each : ∀ item ∈ items, item.WellFormed
  rest : ∀ item ∈ items.tail, item.kind = .spell
  distinct : ((items.filter fun item => item.kind = .spell).map Item.name).Nodup

/-- A name that is a label is not the beginning of every name. -/
theorem exists_not_isFuzzyMatch {name : String} (hname : Text.IsLabel name) :
    ∃ rowName, ¬isFuzzyMatch rowName name := by
  refine ⟨"", fun hmatch => hname.nonempty ?_⟩
  rw [isFuzzyMatch, List.isPrefixOf_iff_prefix, String.toList_empty, List.prefix_nil] at hmatch
  exact String.toList_eq_nil_iff.mp hmatch

namespace Item

theorem wellFormed_spell {name : String} (hname : Text.IsLabel name) : (spell name).WellFormed where
  name := hname
  levels := by simp [spell]
  subclass := by simp [spell]
  spell := fun _ => ⟨rfl, rfl⟩

end Item

theorem WellFormedItems.countP_class_le_one {items : List Item} (h : WellFormedItems items) :
    items.countP (fun item => item.kind = .classLevels) ≤ 1 := by
  cases items with
  | nil => simp
  | cons first others =>
      have hnone : others.countP (fun item => item.kind = .classLevels) = 0 := by
        rw [List.countP_eq_zero]
        intro item hitem
        simp [h.rest item hitem]
      rw [List.countP_cons, hnone]
      split <;> omega

/-- A class, if there is one, followed by spells of different names. -/
theorem wellFormedItems_of_class_and_spells {first : Option Item} {names : List String}
    (hclass : ∀ item ∈ first, item.kind = .classLevels) (hfirst : ∀ item ∈ first, item.WellFormed)
    (hnames : ∀ name ∈ names, Text.IsLabel name) (hdistinct : names.Nodup) :
    WellFormedItems (first.toList ++ names.map Item.spell) where
  each := by
    intro item hitem
    rcases List.mem_append.mp hitem with hitem | hspell
    · exact hfirst item (Option.mem_toList.mp hitem)
    · obtain ⟨name, hname, rfl⟩ := List.mem_map.mp hspell
      exact Item.wellFormed_spell (hnames name hname)
  rest := by
    intro item hitem
    have hspell : item ∈ names.map Item.spell := by
      cases first with
      | none => exact List.mem_of_mem_tail hitem
      | some head => exact hitem
    obtain ⟨name, -, rfl⟩ := List.mem_map.mp hspell
    rfl
  distinct := by
    have hspells : (first.toList ++ names.map Item.spell).filter (fun item => item.kind = .spell) =
        names.map Item.spell := by
      have hnone : first.toList.filter (fun item => item.kind = .spell) = [] := by
        rw [List.filter_eq_nil_iff]
        intro item hitem
        simp [hclass item (Option.mem_toList.mp hitem)]
      rw [List.filter_append, hnone, List.nil_append, List.filter_eq_self]
      intro item hitem
      obtain ⟨name, -, rfl⟩ := List.mem_map.mp hitem
      rfl
    have hmap : (names.map Item.spell).map Item.name = names := by
      rw [List.map_map]
      exact List.map_id names
    rwa [hspells, hmap]

/-! ## What the extractors find -/

namespace ClassFeatures

/-- The class that a summary describes has a level, and its subclass is not the class itself. -/
theorem wellFormed_of_item? {text : String} {item : Item} (h : (ofText text).item? = some item) :
    item.kind = .classLevels ∧ item.levels.isSome ∧ item.WellFormed := by
  rw [item?] at h
  split at h
  case h_2 => cases h
  case h_1 level name others hlevel hbase =>
    cases h
    have hname : name ∈ (ofText text).baseClasses := by rw [hbase]; exact List.mem_cons_self
    refine ⟨rfl, rfl, ?_⟩
    exact {
      name := isLabel_of_mem_baseClasses hname
      levels := by
        rintro levels ⟨⟩
        exact isLabel_of_level hlevel
      subclass := by
        intro subclass hhead
        have hsub := List.mem_of_mem_head? hhead
        refine ⟨isLabel_of_mem_subclasses hsub, ?_⟩
        rintro rfl
        exact not_mem_subclasses hname hsub
      spell := by rintro ⟨⟩ }

end ClassFeatures

namespace Extractor

theorem isLabel_of_trimmedDisplay? {value : Value} {text : String}
    (h : trimmedDisplay? value = some text) : Text.IsLabel text := by
  obtain ⟨hmap, hne⟩ := Option.filter_eq_some_iff.mp h
  obtain ⟨shown, -, rfl⟩ := Option.map_eq_some_iff.mp hmap
  exact Text.isLabel_trim (by simpa using hne)

theorem isLabel_of_bind_trimmedDisplay? {value : Option Value} {text : String}
    (h : value.bind trimmedDisplay? = some text) : Text.IsLabel text := by
  obtain ⟨given, -, hgiven⟩ := Option.bind_eq_some_iff.mp h
  exact isLabel_of_trimmedDisplay? hgiven

theorem classOfSummary_eq (source : Source) :
    ∃ found : Option Item, classOfSummary source = found.toList ∧
      ∀ item ∈ found, item.kind = .classLevels ∧ item.levels.isSome ∧ item.WellFormed := by
  rw [classOfSummary]
  split
  case h_1 text _ =>
    exact ⟨(ClassFeatures.ofText text).item?, rfl, fun item => ClassFeatures.wellFormed_of_item?⟩
  case h_2 => exact ⟨none, rfl, by simp⟩

theorem classOfFields_eq (source : Source) :
    ∃ found : Option Item, classOfFields source = found.toList ∧
      ∀ item ∈ found, item.kind = .classLevels ∧ item.subclass = none ∧ item.WellFormed := by
  rw [classOfFields]
  split
  case h_1 name hname =>
    refine ⟨some _, rfl, ?_⟩
    rintro item ⟨⟩
    refine ⟨rfl, rfl, ?_⟩
    exact {
      name := isLabel_of_bind_trimmedDisplay? hname
      levels := fun levels hlevels => isLabel_of_bind_trimmedDisplay? hlevels
      subclass := by simp
      spell := by rintro ⟨⟩ }
  case h_2 => exact ⟨none, rfl, by simp⟩

theorem spellsMatching_eq_ok {source : Source} {pattern : String} {items : List Item}
    (h : spellsMatching source pattern = .ok items) :
    ∃ names : List String, items = names.map Item.spell ∧ names.Nodup ∧
      ∀ name ∈ names, Text.IsLabel name := by
  rw [spellsMatching] at h
  split at h
  case h_1 => cases h
  case h_2 =>
    cases h
    refine ⟨_, rfl, nodup_eraseDups _, ?_⟩
    intro name hname
    obtain ⟨value, -, hvalue⟩ := List.mem_filterMap.mp (List.mem_eraseDups.mp hname)
    exact isLabel_of_trimmedDisplay? hvalue

end Extractor

/-! ## Imports -/

theorem extractAll_cons_eq_ok_iff {source : Source} {extractor : Extractor}
    {rest : List Extractor} {items : List Item} :
    extractAll source (extractor :: rest) = .ok items ↔
      ∃ found more, extractor.run source = .ok found ∧ extractAll source rest = .ok more ∧
        items = found ++ more := by
  rw [extractAll_cons]
  cases extractor.run source with
  | error e => simp
  | ok found =>
      cases extractAll source rest with
      | error e => simp
      | ok more => simp [eq_comm]

theorem items_formExport {source : Source} {imported : Imported}
    (h : FormExport.format.run source = .ok imported) :
    WellFormedItems imported.items ∧
      ∀ item ∈ imported.items, item.kind = .classLevels → item.levels.isSome := by
  obtain ⟨classes, others, hclasses, hothers, hitems⟩ :=
    extractAll_cons_eq_ok_iff.mp (Format.run_eq_ok_iff.mp h).2.2
  obtain ⟨spells, nothing, hspells, hnothing, rfl⟩ := extractAll_cons_eq_ok_iff.mp hothers
  cases hclasses
  cases hnothing
  obtain ⟨found, hfound, hclass⟩ := Extractor.classOfSummary_eq source
  obtain ⟨names, rfl, hdistinct, hnames⟩ :=
    @Extractor.spellsMatching_eq_ok source Extractor.spellNamePattern spells hspells
  rw [hfound, List.append_nil] at hitems
  rw [hitems]
  refine ⟨wellFormedItems_of_class_and_spells (fun item hitem => (hclass item hitem).1)
    (fun item hitem => (hclass item hitem).2.2) hnames hdistinct, ?_⟩
  intro item hitem hkind
  rcases List.mem_append.mp hitem with hfirst | hspell
  · exact (hclass item (Option.mem_toList.mp hfirst)).2.1
  · obtain ⟨name, -, rfl⟩ := List.mem_map.mp hspell
    cases hkind

theorem items_structuredExport {source : Source} {imported : Imported}
    (h : StructuredExport.format.run source = .ok imported) :
    WellFormedItems imported.items ∧
      ∀ item ∈ imported.items, item.kind = .classLevels ∧ item.subclass = none := by
  obtain ⟨classes, nothing, hclasses, hnothing, hitems⟩ :=
    extractAll_cons_eq_ok_iff.mp (Format.run_eq_ok_iff.mp h).2.2
  cases hclasses
  cases hnothing
  obtain ⟨found, hfound, hclass⟩ := Extractor.classOfFields_eq source
  rw [hfound] at hitems
  rw [hitems]
  have hwell := @wellFormedItems_of_class_and_spells found []
    (fun item hitem => (hclass item hitem).1) (fun item hitem => (hclass item hitem).2.2)
    (by simp) List.nodup_nil
  refine ⟨hwell, ?_⟩
  intro item hitem
  have hmem : item ∈ found := by simpa using hitem
  exact ⟨(hclass item hmem).1, (hclass item hmem).2.1⟩

/-- What the built-in formats import is well-formed, whatever the fields of the sheet hold: at most
one class, which comes first, and else spells of different names.  So there is no item that a row
matches whatever it is called.  The class of a form always has levels, and a structured export gives
no spells and no subclass. -/
theorem builtIn_items_wellFormed (sheet : Sheet) :
    (∀ format ∈ Registry.builtIn, ∀ imported, format.run sheet.source = .ok imported →
        WellFormedItems imported.items ∧ imported.count .classLevels ≤ 1 ∧
          ∀ item ∈ imported.items, ∃ rowName, ¬isFuzzyMatch rowName item.name) ∧
      (∀ imported, FormExport.format.run sheet.source = .ok imported →
        ∀ item ∈ imported.items, item.kind = .classLevels → item.levels.isSome) ∧
      ∀ imported, StructuredExport.format.run sheet.source = .ok imported →
        ∀ item ∈ imported.items, item.kind = .classLevels ∧ item.subclass = none := by
  refine ⟨?_, fun imported h => (items_formExport h).2,
    fun imported h => (items_structuredExport h).2⟩
  intro format hformat imported h
  have hitems : WellFormedItems imported.items := by
    simp only [Registry.builtIn, List.mem_cons, List.not_mem_nil, or_false] at hformat
    rcases hformat with rfl | rfl
    · exact (items_formExport h).1
    · exact (items_structuredExport h).1
  exact ⟨hitems, hitems.countP_class_le_one,
    fun item hitem => exists_not_isFuzzyMatch (hitems.each item hitem).name⟩

/-- A form of a fighter who knows one spell, which is written down twice. -/
def fighterForm : Sheet :=
  Sheet.ofPairs [
    ("Class Features", .text "level 3: (Fighter 1, Battle Master 3)"),
    ("P4.SSmore.spells.name.1", .text " Light "), ("P4.SSmore.spells.name.2", .text "Light")]

set_option maxRecDepth 10000 in
theorem builtIn_items_wellFormed_fighterForm :
    ∃ imported, FormExport.format.run fighterForm.source = .ok imported ∧
      imported.items =
        [⟨.classLevels, "Fighter", some "3", some "Battle Master"⟩, Item.spell "Light"] ∧
      WellFormedItems imported.items := by
  have hsucceeds : failure? (FormExport.format.run fighterForm.source) = none := by rfl
  obtain ⟨imported, hrun⟩ := failure?_eq_none_iff.mp hsucceeds
  have hitems : extractAll fighterForm.source FormExport.format.extractors =
      .ok [⟨.classLevels, "Fighter", some "3", some "Battle Master"⟩, Item.spell "Light"] := by
    rfl
  refine ⟨imported, hrun,
    Except.ok.inj ((Format.run_eq_ok_iff.mp hrun).2.2.symm.trans hitems), ?_⟩
  exact ((builtIn_items_wellFormed fighterForm).1 _ List.mem_cons_self imported hrun).1

end SheetImport
