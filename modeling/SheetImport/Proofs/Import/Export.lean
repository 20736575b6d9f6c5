import SheetImport.Import
import SheetImport.Proofs.Value.Serialization

/-!
# Reading an export

The file that an import is written to can be read again.  It holds the actor, from which nothing is
lost, and the items as the game system keeps them.
-/

namespace SheetImport

open Json (IsExact ItemsExact nestingLimit)

theorem Json.isExact_ofText? (text : Option String) : (Json.ofText? text).IsExact := by
  cases text <;> trivial

theorem Json.depth_ofText? (text : Option String) : (Json.ofText? text).depth = 0 := by
  cases text <;> rfl

namespace Item

theorem isExact_hostData (item : Item) : item.hostData.IsExact := by
  have hzero : (Json.ofFin 0).IsExact := Json.Number.reread_whole _ _
  rw [hostData]
  cases item.kind with
  | classLevels =>
      simp only [IsExact, Json.MembersExact, ItemsExact, Keyed.keys, List.map_cons, List.map_nil,
        Json.isExact_ofText?, hzero, and_true, true_and]
      decide
  | spell =>
      simp only [IsExact, Json.MembersExact, Keyed.keys, List.map_cons, List.map_nil, and_true]
      decide

theorem depth_hostData_le (item : Item) : item.hostData.depth ≤ 4 := by
  rw [hostData]
  cases item.kind with
  | classLevels =>
      simp [Json.depth, Json.membersDepth, Json.itemsDepth, Json.depth_ofText?, Json.ofFin]
  | spell => simp [Json.depth, Json.membersDepth]

theorem itemsExact_map_hostData (items : List Item) : ItemsExact (items.map hostData) := by
  induction items with
  | nil => trivial
  | cons item rest ih => exact ⟨item.isExact_hostData, ih⟩

theorem itemsDepth_map_hostData_le (items : List Item) :
    Json.itemsDepth (items.map hostData) ≤ 4 := by
  induction items with
  | nil => decide
  | cons item rest ih => exact Nat.max_le.mpr ⟨item.depth_hostData_le, ih⟩

end Item

namespace Imported

variable {result : Imported}

theorem isExact_document (hfloats : result.actor.isFloatFree)
    (hnames : result.actor.hasDistinctNames) : result.document.IsExact := by
  have hkeys : ["actor", "items"].Nodup := by decide
  have hactor := Value.isExact_toJson result.actor hfloats hnames
  have hitems := Item.itemsExact_map_hostData result.items
  exact ⟨hkeys, hactor, hitems, trivial⟩

theorem depth_document_le (hdepth : result.actor.depth ≤ 126) :
    result.document.depth ≤ nestingLimit := by
  have hactor := Value.depth_toJson result.actor
  have hitems := Item.itemsDepth_map_hostData_le result.items
  rw [document, Json.depth, Json.membersDepth, Json.membersDepth, Json.membersDepth, Json.depth,
    nestingLimit]
  omega

/-- The file of an import without floats is read as an object of two members.  The actor is the one
that was imported, and the items are those of the import in the game system's form. -/
theorem fileText_reads_back (hfloats : result.actor.isFloatFree)
    (hnames : result.actor.hasDistinctNames) (hdepth : result.actor.depth ≤ 126) :
    ∃ actor items, Json.parse? result.fileText =
        some (.object [("actor", actor), ("items", .list items)]) ∧
      Value.ofJson actor = result.actor ∧ items = result.items.map Item.hostData := by
  refine ⟨result.actor.toJson, result.items.map Item.hostData, ?_, ?_, rfl⟩
  · exact Json.parse?_pretty (isExact_document hfloats hnames) (depth_document_le hdepth)
  · exact Value.ofJson_toJson result.actor hfloats

/-- An import with empty containers, characters to escape and the least integer. -/
def escapedImport : Imported :=
  ⟨"mpmb",
    .object [
      ("name", .text "Ayla \"the Quiet\"\n"), ("xp", .integer Int64.minValue),
      ("flags", .object []), ("langs", .list [.list [], .text "\\"])],
    [⟨.classLevels, "Fighter", some "3", none⟩, .spell "Shield"]⟩

theorem fileText_reads_back_escapedImport :
    escapedImport.actor.isFloatFree ∧ escapedImport.actor.hasDistinctNames ∧
      escapedImport.actor.depth ≤ 126 ∧
      ∃ actor items, Json.parse? escapedImport.fileText =
          some (.object [("actor", actor), ("items", .list items)]) ∧
        Value.ofJson actor = escapedImport.actor ∧
        items = escapedImport.items.map Item.hostData := by
  have hfloats : escapedImport.actor.isFloatFree := by rfl
  have hnames : escapedImport.actor.hasDistinctNames := by decide
  have hdepth : escapedImport.actor.depth ≤ 126 := by decide
  exact ⟨hfloats, hnames, hdepth, fileText_reads_back hfloats hnames hdepth⟩

end Imported

end SheetImport
