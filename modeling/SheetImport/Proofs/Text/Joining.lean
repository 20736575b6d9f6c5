import SheetImport.Text.Segments

/-!
# Joining names to a path

Names without dots can be joined by dots and told apart again, empty ones included.  There has to be
one name at least: the empty text is a path of one empty segment.
-/

namespace SheetImport.Text

theorem segmentsOf_of_not_mem {cs : List Char} (h : '.' ∉ cs) : segmentsOf cs = [cs] := by
  induction cs with
  | nil => rfl
  | cons c rest ih =>
      have hdot : c ≠ '.' := (List.ne_of_not_mem_cons h).symm
      rw [segmentsOf, if_neg hdot, ih (List.not_mem_of_not_mem_cons h)]

theorem segments_of_not_mem {name : String} (h : '.' ∉ name.toList) : segments name = [name] := by
  rw [segments, segmentsOf_of_not_mem h, List.map_singleton, String.ofList_toList]

/-- The segments of names that are joined by dots are the names. -/
theorem segments_intercalate {names : List String} (hne : names ≠ [])
    (hdots : ∀ name ∈ names, '.' ∉ name.toList) : segments (".".intercalate names) = names := by
  induction names with
  | nil => exact absurd rfl hne
  | cons name rest ih =>
      have hname : segments name = [name] := segments_of_not_mem (hdots name List.mem_cons_self)
      by_cases hrest : rest = []
      · rw [hrest, String.intercalate_singleton, hname]
      · have hlater := ih hrest fun other hother => hdots other (List.mem_cons_of_mem name hother)
        calc
          segments (".".intercalate (name :: rest))
            = segments (name ++ "." ++ ".".intercalate rest) := by
              rw [String.intercalate_cons_of_ne_nil hrest]
          _ = segments name ++ segments (".".intercalate rest) := segments_append_dot _ _
          _ = name :: rest := by rw [hname, hlater, List.singleton_append]

end SheetImport.Text
