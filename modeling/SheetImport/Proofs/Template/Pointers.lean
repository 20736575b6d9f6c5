import SheetImport.Proofs.Template.Paths
import SheetImport.Proofs.Text.Joining

/-!
# Looking into a record by a dotted path

A dotted path that is put together from the keys of nested records leads to the value that the
template under these keys resolves to by itself.  Neither what stands beside it nor the records
around it change it on the way.  Where a key is missing from a record, so is everything behind it.
-/

namespace SheetImport

namespace Value

/-- Following a path is following its first part and from there the rest. -/
theorem follow?_append (value : Value) (before after : List String) :
    value.follow? (before ++ after) = (value.follow? before).bind (follow? · after) := by
  induction before generalizing value with
  | nil => rfl
  | cons name rest ih =>
      rw [List.cons_append, follow?, follow?, Option.bind_assoc]
      congr 1
      funext member
      exact ih member

/-- A dot between two paths leads from what the first finds to what the second finds in it. -/
theorem pointer?_append_dot (value : Value) (first second : String) :
    value.pointer? (first ++ "." ++ second) =
      (value.pointer? first).bind (·.pointer? second) := by
  rw [pointer?, Text.segments_append_dot, follow?_append]
  rfl

theorem pointer?_intercalate (value : Value) {path : List String} (hne : path ≠ [])
    (hdots : ∀ key ∈ path, '.' ∉ key.toList) :
    value.pointer? (".".intercalate path) = value.follow? path := by
  rw [pointer?, Text.segments_intercalate hne hdots]

end Value

namespace Template

/-- A key that the template for a record does not have leads nowhere in the record. -/
theorem Filled.follow?_eq_none {source : Source} {template : Template} {record : Value}
    {before after : List String} {key : String} {children : List (String × Template)}
    (h : Filled source template record) (hnode : template.follow? before = some (.subtree children))
    (hmissing : key ∉ Keyed.keys children) :
    record.follow? (before ++ key :: after) = none := by
  obtain ⟨node, hfound, hfilled⟩ := h.follow? hnode
  obtain ⟨members, rfl, hkeys, -⟩ := filled_subtree_iff.mp hfilled
  have hmember : (Value.object members).member? key = none := by
    rw [Value.member?, Keyed.get?_eq_none_iff, Keyed.keys, hkeys]
    exact hmissing
  rw [Value.follow?_append, hfound, Option.bind_some, Value.follow?, hmember, Option.bind_none]

/-- In the record that a template resolves to, the dotted path of some keys leads to what the part
of the template under these keys resolves to, and a path with a key that the template does not have
at that place leads nowhere.  In any value, paths are followed one part at a time. -/
theorem pointers_lead_to_parts (source : Source) (template : Template) :
    (∀ record, template.resolve source = .ok record →
      (∀ path part, path ≠ [] → (∀ key ∈ path, '.' ∉ key.toList) →
        template.follow? path = some part →
          ∃ value, part.resolve source = .ok value ∧
            record.pointer? (".".intercalate path) = some value) ∧
      ∀ before key after children, (∀ other ∈ before ++ key :: after, '.' ∉ other.toList) →
        template.follow? before = some (.subtree children) → key ∉ Keyed.keys children →
          record.pointer? (".".intercalate (before ++ key :: after)) = none) ∧
      ∀ (value : Value) (first second : String),
        value.pointer? (first ++ "." ++ second) =
          (value.pointer? first).bind (·.pointer? second) := by
  refine ⟨fun record hrecord => ?_, Value.pointer?_append_dot⟩
  have hfilled : Filled source template record := resolve_eq_ok_iff.mp hrecord
  constructor
  · intro path part hne hdots hpart
    obtain ⟨value, hfound, hvalue⟩ := hfilled.follow? hpart
    refine ⟨value, resolve_eq_ok_iff.mpr hvalue, ?_⟩
    rw [Value.pointer?_intercalate record hne hdots, hfound]
  · intro before key after children hdots hnode hmissing
    rw [Value.pointer?_intercalate record (by simp) hdots]
    exact hfilled.follow?_eq_none hnode hmissing

/-- An unchecked mark inside two records, the inner one under an empty key. -/
theorem pointers_lead_to_parts_nestedRecord :
    let source := (Sheet.ofPairs [("Race", .text " Elf "), ("Inspiration", .text "Off")]).source
    let details := subtree [("race", .field "Race"), ("inspired", .field "Inspiration")]
    let template := subtree [("name", .field "Name"), ("", .subtree [("details", details)])]
    let record := Value.object [("name", .null), ("", .object [("details",
      .object [("race", .text "Elf"), ("inspired", .boolean false)])])]
    template.resolve source = .ok record ∧
      (∃ value, (field "Inspiration").resolve source = .ok value ∧
        record.pointer? (".".intercalate ["", "details", "inspired"]) = some value) ∧
      record.pointer? (".".intercalate ["", "data", "race"]) = none := by
  intro source details template record
  have hrecord : template.resolve source = .ok record := rfl
  obtain ⟨hfound, hmissing⟩ := (pointers_lead_to_parts source template).1 record hrecord
  refine ⟨hrecord, ?_, ?_⟩
  · exact hfound ["", "details", "inspired"] (.field "Inspiration") (by simp) (by decide) rfl
  · exact hmissing [""] "data" ["race"] [("details", details)] (by decide) rfl (by decide)

end Template

end SheetImport
