import SheetImport.Proofs.Compendium.Agreement

/-!
# Runs over a folder of packs

Whatever is done in a session and whatever becomes of the files, a pack that has been read once
answers from that reading, and rows that are kept stay.  Items are matched from what is kept, so
matching an item neither fails nor changes anything, and the items of a list do not influence each
other.
-/

namespace SheetImport.Session

/-- The invariant holds behind every run. -/
theorem sound_after_start (packs : PackNames) (files : Directory) (operations : List Operation) :
    ((start packs files).after operations).Sound :=
  (after_spec operations (sound_start packs files)).1

theorem perform_entry_of_read {s : Session} (hs : s.Sound) {pack : String}
    {documents : List Json} (hread : s.disk.firstReading? pack = some documents) (id : String) :
    s.perform (.entry pack id) = (.ok (documents.find? (PackFolder.hasId id)), s) := by
  rw [perform, ask_entry, packDocuments_of_read hs hread]
  rfl

theorem perform_index_of_unread {s : Session} (hs : s.Sound) {pack : String}
    (hname : PackFolder.isPackName pack) (hread : s.disk.firstReading? pack = none) :
    s.perform (.index pack) =
      (indexAnswer pack (PackFolder.documentsOf (s.disk.files (PackFolder.fileName pack))),
        s.reread pack) := by
  rw [perform, ask_index, packDocuments_of_unread hs hname hread]

theorem Later.isPopulated {s t : Session} (h : Later s t) {kind : ItemKind}
    (hkind : s.catalog.isPopulated kind) : t.catalog.isPopulated kind := by
  obtain ⟨rows, hrows⟩ := Option.isSome_iff_exists.mp hkind
  rw [Catalog.isPopulated, h.rows kind rows hrows]
  rfl

theorem Later.entries {s t : Session} (h : Later s t) {kind : ItemKind}
    (hkind : s.catalog.isPopulated kind) : t.catalog.entries kind = s.catalog.entries kind := by
  obtain ⟨rows, hrows⟩ := Option.isSome_iff_exists.mp hkind
  rw [Catalog.entries, Catalog.entries, h.rows kind rows hrows, hrows]

/-- Matching an item never fails and changes nothing.  A list of items is matched item by item, each
as it would be alone, so parts of the list can be matched one after the other, and items in another
order have their outcomes in that order. -/
theorem matching_changes_nothing (packs : PackNames) (files : Directory)
    (operations : List Operation) :
    let s := (start packs files).after operations
    ∃ foundOf : Item → Option Match,
      (∀ item, s.perform (.matchItem item) = (.ok (foundOf item), s)) ∧
        (∀ items, s.perform (.matchItems items) =
          (items.map fun item => ⟨item, foundOf item⟩, s)) ∧
        (∀ items more, (s.perform (.matchItems (items ++ more))).1 =
          (s.perform (.matchItems items)).1 ++
            ((s.perform (.matchItems items)).2.perform (.matchItems more)).1) ∧
        ∀ items others, items.Perm others →
          (s.perform (.matchItems items)).1.Perm (s.perform (.matchItems others)).1 := by
  intro s
  have hs : s.Sound := sound_after_start packs files operations
  choose foundOf hfound using ask_matchItem hs
  have hitems : ∀ items, s.perform (.matchItems items) =
      (items.map fun item => ⟨item, foundOf item⟩, s) := ask_matchItems hfound
  refine ⟨foundOf, hfound, hitems, fun items more => ?_, fun items others hperm => ?_⟩
  · rw [hitems, hitems, hitems, List.map_append]
  · rw [hitems, hitems]
    exact hperm.map _

end SheetImport.Session
