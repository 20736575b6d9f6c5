import SheetImport.Compendium.Catalog
import SheetImport.Proofs.Pattern.Literals

/-!
# Searching a catalog for a text

A query is a pattern, but one without metacharacters is just a text to look for.  It finds the rows
of its kind with that text anywhere in their names, whether written in capital or in small letters.
Only the letters from A to Z have two cases here.
-/

namespace SheetImport

/-- Whether a text stands in another one, where capital and small letters from A to Z are not told
apart and all other characters are. -/
def Text.ContainsCaseless (text part : String) : Prop :=
  part.toList.map Char.caseFoldAsciiOnly <:+: text.toList.map Char.caseFoldAsciiOnly

instance (text part : String) : Decidable (Text.ContainsCaseless text part) :=
  inferInstanceAs (Decidable (_ <:+: _))

namespace Catalog

open Pattern (metacharacters caselessText caselessBytes)

/-- A query without metacharacters that is not too large gives the rows that contain it, in the order
of the catalog and with repetitions.  Where no rows have been read it gives none. -/
theorem search_finds_containing (catalog : Catalog) (kind : ItemKind) {query : String}
    (hplain : ∀ c ∈ query.toList, c ∉ metacharacters)
    (hsize : caselessBytes query.toList ≤ Pattern.Extent.limit) :
    catalog.search kind query =
        .ok ((catalog.entries kind).filter fun row => Text.ContainsCaseless row.name query) ∧
      (catalog.isPopulated kind = false → catalog.search kind query = .ok []) := by
  have hparse : Pattern.parseCaseless query = .ok ⟨caselessText query.toList⟩ := by
    rw [Pattern.parseCaseless_of_plain hplain, if_neg (Nat.not_lt_of_le hsize)]
  have hmatch : (fun row : PackRow => Pattern.isMatch ⟨caselessText query.toList⟩ row.name) =
      fun row => decide (Text.ContainsCaseless row.name query) := by
    funext row
    rw [Bool.eq_iff_iff, Pattern.isMatch_caselessText, decide_eq_true_iff, Text.ContainsCaseless]
  have hrows : catalog.search kind query =
      .ok ((catalog.entries kind).filter fun row => Text.ContainsCaseless row.name query) := by
    rw [search, hparse, ← hmatch]
  refine ⟨hrows, fun hempty => ?_⟩
  have hnone : catalog.rows? kind = none := by simpa [isPopulated] using hempty
  rw [hrows, entries, hnone]
  rfl

/-- The text stands in the second name behind a part of it, and not in the third, which has another
letter in a second case. -/
theorem search_finds_containing_eclair :
    let rows : List PackRow :=
      [⟨"s1", "Fire", none⟩, ⟨"s2", "ÉÉclair BOLT", none⟩, ⟨"s3", "éclair bolt", none⟩,
        ⟨"s2", "ÉÉclair BOLT", none⟩]
    let catalog := (Catalog.empty .standard).keep .spell rows
    (∀ c ∈ "Éclair b".toList, c ∉ metacharacters) ∧
      caselessBytes "Éclair b".toList ≤ Pattern.Extent.limit ∧
      catalog.search .spell "Éclair b" =
        .ok [⟨"s2", "ÉÉclair BOLT", none⟩, ⟨"s2", "ÉÉclair BOLT", none⟩] ∧
      catalog.search .classLevels "Éclair b" = .ok [] := by
  intro rows catalog
  have hplain : ∀ c ∈ "Éclair b".toList, c ∉ metacharacters := by simp [metacharacters]
  have hsize : caselessBytes "Éclair b".toList ≤ Pattern.Extent.limit := by cbv
  refine ⟨hplain, hsize, ?_, ?_⟩
  · rw [(search_finds_containing catalog .spell hplain hsize).1]
    exact congrArg Except.ok (by decide)
  · exact (search_finds_containing catalog .classLevels hplain hsize).2 rfl

end Catalog

end SheetImport
