import SheetImport.Compendium.Shelf
import SheetImport.Proofs.Compendium.Lookup

/-!
# The data of matched classes

A class that is matched gets the document of its row with its own levels and subclass in the
document's data.  Nothing else about the document changes.  This needs data to enter them into: a
document that is no object, or whose data is something other than an object, is handed on as it is.
A spell always gets the document as it is.
-/

namespace SheetImport

/-! ## Other entries -/

namespace Keyed

variable {α : Type}

/-- The entries under other names, in order. -/
def without (entries : Keyed α) (names : List String) : Keyed α :=
  entries.filter fun entry => entry.1 ∉ names

/-- Giving a name a value leaves the entries under other names alone. -/
theorem without_insert (entries : Keyed α) {names : List String} {name : String}
    (hname : name ∈ names) (value : α) :
    without (insert entries name value) names = without entries names := by
  induction entries with
  | nil => simp [insert, without, hname]
  | cons head rest ih =>
      obtain ⟨key, old⟩ := head
      by_cases hkey : key = name
      · subst hkey
        simp [insert, without, hname]
      · simp only [without] at ih
        simp only [insert, if_neg hkey, without, List.filter_cons, ih]

end Keyed

/-! ## Entering levels and subclass -/

/-- Whether a document is an object with these members and that data.  Where it has no data, that is
taken to be empty. -/
structure Json.HasData (document : Json) (members data : Keyed Json) : Prop where
  object : document = .object members
  data : Keyed.get? members "data" = some (.object data) ∨
    Keyed.get? members "data" = none ∧ data = []

/-- Whether a document has the levels and the subclass of an item in its data, and otherwise these
members with that data. -/
def Item.IsEnteredIn (item : Item) (members data : Keyed Json) (document : Json) : Prop :=
  ∃ newMembers newData,
    document = .object newMembers ∧ Keyed.get? newMembers "data" = some (.object newData) ∧
      Keyed.get? newData "levels" = some (Json.ofText? item.levels) ∧
      Keyed.get? newData "subclass" = some (Json.ofText? item.subclass) ∧
      Keyed.without newMembers ["data"] = Keyed.without members ["data"] ∧
      Keyed.without newData ["levels", "subclass"] = Keyed.without data ["levels", "subclass"]

theorem withClassLevels_of_hasData {document : Json} {members data : Keyed Json}
    (h : document.HasData members data) (levels subclass : Option String) :
    withClassLevels document levels subclass =
      .object (Keyed.insert members "data" (.object
        (Keyed.insert (Keyed.insert data "levels" (Json.ofText? levels)) "subclass"
          (Json.ofText? subclass)))) := by
  have hdata : (Keyed.get? members "data").getD (.object []) = .object data := by
    rcases h.data with hdata | ⟨hdata, rfl⟩
    · rw [hdata, Option.getD_some]
    · rw [hdata, Option.getD_none]
  simp only [h.object, withClassLevels, hdata]

theorem withClassLevels_of_not_hasData {document : Json}
    (h : ∀ members data, ¬document.HasData members data) (levels subclass : Option String) :
    withClassLevels document levels subclass = document := by
  cases document with
  | object members =>
      rw [withClassLevels]
      split
      case h_1 data hdata =>
        cases hmember : Keyed.get? members "data" with
        | none => exact absurd ⟨rfl, .inr ⟨hmember, rfl⟩⟩ (h members [])
        | some value =>
            rw [hmember, Option.getD_some] at hdata
            exact absurd ⟨rfl, .inl (hmember.trans (congrArg some hdata))⟩ (h members data)
      case h_2 => rfl
  | _ => rfl

theorem isEnteredIn_withClassLevels (item : Item) {document : Json} {members data : Keyed Json}
    (h : document.HasData members data) :
    item.IsEnteredIn members data (withClassLevels document item.levels item.subclass) := by
  let levels := Json.ofText? item.levels
  let subclass := Json.ofText? item.subclass
  let newData := Keyed.insert (Keyed.insert data "levels" levels) "subclass" subclass
  have hlevels : Keyed.get? newData "levels" = some levels := by
    rw [Keyed.get?_insert, if_neg (by decide), Keyed.get?_insert, if_pos rfl]
  have hsubclass : Keyed.get? newData "subclass" = some subclass := by
    rw [Keyed.get?_insert, if_pos rfl]
  have hdata : Keyed.get? (Keyed.insert members "data" (.object newData)) "data" =
      some (.object newData) := by
    rw [Keyed.get?_insert, if_pos rfl]
  have hrest : Keyed.without newData ["levels", "subclass"] =
      Keyed.without data ["levels", "subclass"] := by
    rw [Keyed.without_insert _ (by simp), Keyed.without_insert _ (by simp)]
  exact ⟨_, newData, withClassLevels_of_hasData h _ _, hdata, hlevels, hsubclass,
    Keyed.without_insert _ (by simp) _, hrest⟩

/-! ## What a match hands on -/

namespace Catalog

variable {σ : Type} (compendium : Compendium (StateM σ)) (catalog : Catalog) (item : Item)

/-- A matched item is answered with the document of the first row whose name begins with its own. -/
theorem matchItem_of_findFirst {row : PackRow} (s : σ)
    (hrow : catalog.findFirst item.kind (fun row => isFuzzyMatch row.name item.name) = some row) :
    ((catalog.matchItem compendium item).run s).1 =
      ((compendium.entry (catalog.packs.pack item.kind) row.id).run s).1.map
        (Option.map fun document => ⟨row, item.entered document⟩) := by
  rw [matchItem, hrow]
  simp only [fetch, StateT.run_bind]
  rcases (compendium.entry (catalog.packs.pack item.kind) row.id).run s with ⟨_ | _ | document, t⟩
  all_goals rfl

/-- An item is matched just when the first row whose name begins with its own leads to a document. -/
theorem matchItem_eq_ok_iff (s : σ) (found : Match) :
    ((catalog.matchItem compendium item).run s).1 = .ok (some found) ↔
      ∃ document,
        catalog.findFirst item.kind (fun row => isFuzzyMatch row.name item.name) =
            some found.row ∧
          ((compendium.entry (catalog.packs.pack item.kind) found.row.id).run s).1 =
            .ok (some document) ∧
          found.document = item.entered document := by
  cases hrow : catalog.findFirst item.kind fun row => isFuzzyMatch row.name item.name with
  | none =>
      have hnone : ((catalog.matchItem compendium item).run s).1 = .ok none := by
        rw [matchItem, hrow]
        rfl
      simp [hnone]
  | some row =>
      rw [matchItem_of_findFirst compendium catalog item s hrow]
      constructor
      · intro hfound
        cases hentry : ((compendium.entry (catalog.packs.pack item.kind) row.id).run s).1 with
        | error e =>
            rw [hentry] at hfound
            cases hfound
        | ok answer =>
            rw [hentry] at hfound
            cases answer with
            | none => cases hfound
            | some document =>
                cases hfound
                exact ⟨document, rfl, hentry, rfl⟩
      · intro hdocument
        obtain ⟨document, hfirst, hentry, hentered⟩ := hdocument
        cases hfirst
        rw [hentry, Except.map, Option.map_some, ← hentered]

/-- What a matched item gets is the document that the compendium has for its row, and whenever the
compendium has one the item is matched.  For a spell it is just that document.  For a class it has
the item's levels and subclass in its data, whatever was there before, and all else in it and in its
data is as it was; only a document that has no room for data is left alone. -/
theorem matched_documents_carry_items (s : σ) :
    (∀ row document,
      catalog.findFirst item.kind (fun row => isFuzzyMatch row.name item.name) = some row →
        ((compendium.entry (catalog.packs.pack item.kind) row.id).run s).1 =
            .ok (some document) →
          ∃ found : Match, found.row = row ∧
            ((catalog.matchItem compendium item).run s).1 = .ok (some found)) ∧
      ∀ found : Match, ((catalog.matchItem compendium item).run s).1 = .ok (some found) →
        ∃ document,
          catalog.findFirst item.kind (fun row => isFuzzyMatch row.name item.name) =
              some found.row ∧
            ((compendium.entry (catalog.packs.pack item.kind) found.row.id).run s).1 =
              .ok (some document) ∧
            (item.kind = .spell → found.document = document) ∧
            (item.kind = .classLevels →
              (∀ members data, document.HasData members data →
                item.IsEnteredIn members data found.document) ∧
              ((∀ members data, ¬document.HasData members data) →
                found.document = document)) := by
  constructor
  · intro row document hrow hentry
    refine ⟨⟨row, item.entered document⟩, rfl, ?_⟩
    exact (matchItem_eq_ok_iff compendium catalog item s _).mpr ⟨document, hrow, hentry, rfl⟩
  · intro found hfound
    obtain ⟨document, hrow, hentry, hentered⟩ :=
      (matchItem_eq_ok_iff compendium catalog item s found).mp hfound
    refine ⟨document, hrow, hentry, fun hspell => ?_, fun hclass => ?_⟩
    · rw [hentered, Item.entered, hspell]
    · rw [hentered, Item.entered, hclass]
      exact ⟨fun members data hdata => isEnteredIn_withClassLevels item hdata,
        fun hnone => withClassLevels_of_not_hasData hnone _ _⟩

/-- The levels that a document holds are replaced where they stand, and a subclass is added. -/
theorem matched_documents_carry_items_fighter :
    let data : Keyed Json :=
      [("levels", Json.ofFin 1), ("hitDice", .text "d10"), ("skills", .object [])]
    let members : Keyed Json := [("name", .text "Fighter"), ("data", .object data), ("img", .null)]
    let shelf : Shelf := [("dnd5e.classes",
      ⟨[⟨"c1", "Fighter", none⟩], [("c1", .object members)], [], none⟩)]
    let compendium : Compendium (StateM Unit) := shelf.compendium
    let catalog := (((Catalog.empty .standard).populate compendium).run ()).1
    let item : Item := ⟨.classLevels, "Fighter", some "3", some "Champion"⟩
    let found : Match := ⟨⟨"c1", "Fighter", none⟩, .object [("name", .text "Fighter"),
      ("data", .object [("levels", .text "3"), ("hitDice", .text "d10"), ("skills", .object []),
        ("subclass", .text "Champion")]), ("img", .null)]⟩
    ((catalog.matchItem compendium item).run ()).1 = .ok (some found) ∧
      item.IsEnteredIn members data found.document := by
  intro data members shelf compendium catalog item found
  have hfound : ((catalog.matchItem compendium item).run ()).1 = .ok (some found) := by cbv
  obtain ⟨document, -, hentry, -, hclass⟩ :=
    (matched_documents_carry_items compendium catalog item ()).2 found hfound
  cases hentry
  exact ⟨hfound, (hclass rfl).1 members data ⟨rfl, .inl rfl⟩⟩

/-- A class does not always get its levels: data that is null is not replaced, and a document that is
no object has no data. -/
theorem class_data_can_stay :
    let fighter : Json := .object [("_id", .text "c1"), ("name", .text "Fighter"), ("data", .null)]
    let shelf : Shelf := [("dnd5e.classes", ⟨[⟨"c1", "Fighter", none⟩, ⟨"c2", "Wizard", none⟩],
      [("c1", fighter), ("c2", .text "Wizard")], [], none⟩)]
    let compendium : Compendium (StateM Unit) := shelf.compendium
    let catalog := (((Catalog.empty .standard).populate compendium).run ()).1
    let matched (name : String) : Except MatchError (Option Match) :=
      ((catalog.matchItem compendium ⟨.classLevels, name, some "3", none⟩).run ()).1
    matched "Fighter" = .ok (some ⟨⟨"c1", "Fighter", none⟩, fighter⟩) ∧
      (fighter.member? "data").bind (·.member? "levels") ≠ some (.text "3") ∧
      matched "Wizard" = .ok (some ⟨⟨"c2", "Wizard", none⟩, .text "Wizard"⟩) := by
  intro fighter shelf compendium catalog matched
  refine ⟨rfl, ?_, rfl⟩
  simp [fighter, Json.member?, Keyed.get?]

end Catalog

end SheetImport
