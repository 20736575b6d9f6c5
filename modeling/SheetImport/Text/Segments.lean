/-!
# Dotted paths

A path is a text whose segments stand between dots.  Splitting keeps empty segments, so a path has
always one segment more than dots.
-/

namespace SheetImport.Text

/-- The segments between the dots of a text. -/
def segmentsOf : List Char → List (List Char)
  | [] => [[]]
  | c :: rest =>
      if c = '.' then [] :: segmentsOf rest
      else match segmentsOf rest with
        | [] => [[c]]
        | segment :: segments => (c :: segment) :: segments

def segments (path : String) : List String :=
  (segmentsOf path.toList).map String.ofList

theorem segmentsOf_ne_nil (cs : List Char) : segmentsOf cs ≠ [] := by
  cases cs with
  | nil => simp [segmentsOf]
  | cons c rest =>
      unfold segmentsOf
      split
      · simp
      · split <;> simp

/-- A dot between two texts separates their segments. -/
theorem segmentsOf_append_dot (before after : List Char) :
    segmentsOf (before ++ '.' :: after) = segmentsOf before ++ segmentsOf after := by
  induction before with
  | nil => simp [segmentsOf]
  | cons c rest ih =>
      by_cases hdot : c = '.'
      · simp [segmentsOf, hdot, ih]
      · cases hrest : segmentsOf rest with
        | nil => exact absurd hrest (segmentsOf_ne_nil rest)
        | cons segment segments => simp [segmentsOf, hdot, ih, hrest]

theorem segments_append_dot (before after : String) :
    segments (before ++ "." ++ after) = segments before ++ segments after := by
  simp [segments, String.toList_append, segmentsOf_append_dot]

end SheetImport.Text
