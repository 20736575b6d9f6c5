import Mathlib.Data.List.Infix
import SheetImport.ClassFeatures

/-!
# Scanning for marks

A scan counts marks from left to right, and the text of a mark that is counted is never part of the
next.  Which marks these are can be told from the places of a text alone: a place is free if no mark
that is counted reaches over it, and the marks that are counted are those that begin at free places.
-/

namespace SheetImport.ClassFeatures

variable {α : Type} {mark? : List Char → Option (α × Nat)}

/-- A mark takes at least one character. -/
structure TakesText (mark? : List Char → Option (α × Nat)) : Prop where
  nil : mark? [] = none
  pos : ∀ cs mark length, mark? cs = some (mark, length) → 0 < length

/-! ## Places -/

/-- The places of a text that comes after some other characters: what stands before each of them, and
what begins there. -/
def placesFrom (before : List Char) : List Char → List (List Char × List Char)
  | [] => []
  | c :: rest => (before, c :: rest) :: placesFrom (before ++ [c]) rest

/-- The places of a text. -/
def places (cs : List Char) : List (List Char × List Char) :=
  placesFrom [] cs

theorem mem_placesFrom {before cs : List Char} {place : List Char × List Char} :
    place ∈ placesFrom before cs ↔
      ∃ middle, place.1 = before ++ middle ∧ cs = middle ++ place.2 ∧ place.2 ≠ [] := by
  induction cs generalizing before with
  | nil => simp +contextual [placesFrom]
  | cons c rest ih =>
      rw [placesFrom, List.mem_cons, ih]
      constructor
      · rintro (rfl | ⟨middle, hbefore, rfl, hrest⟩)
        · exact ⟨[], by simp⟩
        · exact ⟨c :: middle, by simp [hbefore, hrest]⟩
      · rintro ⟨middle, hbefore, hrest, hne⟩
        cases middle with
        | nil => exact .inl (Prod.ext (by simpa using hbefore) (by simpa using hrest.symm))
        | cons d more =>
            obtain ⟨rfl, rfl⟩ := List.cons.inj hrest
            exact .inr ⟨more, by simpa using hbefore, rfl, hne⟩

theorem mem_places {cs : List Char} {place : List Char × List Char} :
    place ∈ places cs ↔ cs = place.1 ++ place.2 ∧ place.2 ≠ [] := by
  rw [places, mem_placesFrom]
  constructor
  · rintro ⟨middle, hmiddle, hcs, hne⟩
    rw [List.nil_append] at hmiddle
    exact ⟨hmiddle ▸ hcs, hne⟩
  · rintro ⟨hcs, hne⟩
    exact ⟨place.1, rfl, hcs, hne⟩

/-- What begins at the places of a text are the ends of the text that are not empty. -/
theorem filterMap_placesFrom {β : Type} {f : List Char → Option β} (hnil : f [] = none)
    (before cs : List Char) :
    (placesFrom before cs).filterMap (fun place => f place.2) = cs.tails.filterMap f := by
  induction cs generalizing before with
  | nil => simp [placesFrom, hnil]
  | cons c rest ih =>
      rw [placesFrom, List.tails_cons, List.filterMap_cons, List.filterMap_cons, ih]

/-! ## Free places -/

/-- No mark that begins at an earlier free place reaches over this place. -/
def IsFree (mark? : List Char → Option (α × Nat)) (before rest : List Char) : Prop :=
  ∀ earlier inner, before = earlier ++ inner → inner ≠ [] → IsFree mark? earlier (inner ++ rest) →
    ∀ mark length, mark? (inner ++ rest) = some (mark, length) → length ≤ inner.length
termination_by before.length
decreasing_by
  rename_i hbefore hinner
  have hpos := List.length_pos_iff.mpr hinner
  rw [hbefore, List.length_append]
  omega

theorem isFree_nil (rest : List Char) : IsFree mark? [] rest := by
  rw [IsFree]
  intro earlier inner hnil hinner
  exact absurd (List.append_eq_nil_iff.mp hnil.symm).2 hinner

/-- A place behind a free one is free itself if no mark that begins there reaches over it and no
place between them is free. -/
theorem IsFree.append {before middle rest : List Char}
    (hfree : IsFree mark? before (middle ++ rest))
    (hreach : ∀ mark length, mark? (middle ++ rest) = some (mark, length) →
      length ≤ middle.length)
    (hbetween : ∀ first inner, middle = first ++ inner → first ≠ [] → inner ≠ [] →
      ¬IsFree mark? (before ++ first) (inner ++ rest)) :
    IsFree mark? (before ++ middle) rest := by
  rw [IsFree]
  intro earlier inner hsplit hinner hearlier mark length hmark
  rcases List.append_eq_append_iff.mp hsplit with ⟨first, rfl, rfl⟩ | ⟨last, rfl, rfl⟩
  · by_cases hfirst : first = []
    · subst hfirst
      exact hreach mark length hmark
    · exact absurd hearlier (hbetween first inner rfl hfirst hinner)
  · by_cases hlast : last = []
    · subst hlast
      exact hreach mark length hmark
    · rw [IsFree] at hfree
      rw [List.append_assoc] at hearlier hmark
      have hle := hfree earlier last rfl hlast hearlier mark length hmark
      rw [List.length_append]
      omega

/-- A place inside a mark that is counted is not free. -/
theorem not_isFree_of_lt {before inner rest : List Char} (hinner : inner ≠ [])
    (hfree : IsFree mark? before (inner ++ rest)) {mark : α} {length : Nat}
    (hmark : mark? (inner ++ rest) = some (mark, length)) (hlt : inner.length < length) :
    ¬IsFree mark? (before ++ inner) rest := by
  intro h
  rw [IsFree] at h
  have := h before inner rfl hinner hfree mark length hmark
  omega

/-! ## Marks that are counted -/

open Classical in
/-- The mark that is counted at a place, if there is one. -/
noncomputable def counted? (mark? : List Char → Option (α × Nat))
    (place : List Char × List Char) : Option α :=
  if IsFree mark? place.1 place.2 then (mark? place.2).map Prod.fst else none

theorem counted?_eq_some_iff {place : List Char × List Char} {mark : α} :
    counted? mark? place = some mark ↔
      IsFree mark? place.1 place.2 ∧ ∃ length, mark? place.2 = some (mark, length) := by
  rw [counted?]
  split
  case isTrue hfree => simp [hfree]
  case isFalse hfree => simp [hfree]

/-- A scan that still skips some characters counts the marks at the free places behind them. -/
theorem marks_eq_filterMap_placesFrom (htakes : TakesText mark?) {before cs : List Char}
    {skipped : Nat}
    (hcovered : ∀ middle rest, cs = middle ++ rest → middle.length < skipped →
      ¬IsFree mark? (before ++ middle) rest)
    (hfree : ∀ middle rest, cs = middle ++ rest → middle.length = skipped →
      IsFree mark? (before ++ middle) rest) :
    marks mark? skipped cs = (placesFrom before cs).filterMap (counted? mark?) := by
  -- The scan is followed character by character.  `hcovered` and `hfree` say where it stands: the
  -- places that are skipped are not free, and the place behind them is.
  induction cs generalizing before skipped with
  | nil => cases skipped <;> rfl
  | cons c rest ih =>
      rw [placesFrom, List.filterMap_cons]
      cases skipped with
      | succ left =>
          have hnone : counted? mark? (before, c :: rest) = none := by
            have := hcovered [] (c :: rest) rfl (Nat.succ_pos left)
            rw [List.append_nil] at this
            rw [counted?, if_neg this]
          rw [hnone, marks]
          apply ih
          · intro middle last hsplit hlt
            have := hcovered (c :: middle) last (by rw [hsplit]; rfl) (Nat.succ_lt_succ hlt)
            rwa [List.append_cons] at this
          · intro middle last hsplit hlength
            have := hfree (c :: middle) last (by rw [hsplit]; rfl) (by simp [hlength])
            rwa [List.append_cons] at this
      | zero =>
          have hhere : IsFree mark? before (c :: rest) := by
            simpa using hfree [] (c :: rest) rfl rfl
          rw [marks, counted?, if_pos hhere]
          cases hmark : mark? (c :: rest) with
          | none =>
              apply ih
              · intro middle last _ hlt
                exact absurd hlt (Nat.not_lt_zero _)
              · intro middle last hsplit hlength
                obtain rfl := List.length_eq_zero_iff.mp hlength
                obtain rfl : rest = last := hsplit
                rw [List.append_nil]
                apply IsFree.append hhere
                · intro mark length hsome
                  rw [List.singleton_append, hmark] at hsome
                  cases hsome
                · intro first inner hsingle hfirst hinner
                  have := congrArg List.length hsingle
                  have := List.length_pos_iff.mpr hfirst
                  have := List.length_pos_iff.mpr hinner
                  simp at *
                  omega
          | some found =>
              obtain ⟨mark, length⟩ := found
              have hlength := htakes.pos _ _ _ hmark
              have hinside : ∀ first last, c :: rest = (first ++ last) → first ≠ [] →
                  first.length < length → ¬IsFree mark? (before ++ first) last := by
                intro first last hsplit hfirst hlt
                rw [hsplit] at hhere hmark
                exact not_isFree_of_lt hfirst hhere hmark hlt
              change mark :: marks mark? (length - 1) rest = mark :: _
              congr 1
              apply ih
              · intro middle last hsplit hlt
                rw [List.append_assoc]
                apply hinside (c :: middle) last (by rw [hsplit]; rfl) (List.cons_ne_nil _ _)
                rw [List.length_cons]
                omega
              · intro middle last hsplit hmiddle
                rw [List.append_assoc]
                subst hsplit
                apply IsFree.append hhere
                · intro other reach hother
                  have hsame : some (other, reach) = some (mark, length) := hother.symm.trans hmark
                  cases hsame
                  rw [List.singleton_append, List.length_cons]
                  omega
                · intro first inner hmid hfirst hinner
                  apply hinside first (inner ++ last)
                  · rw [← List.append_assoc, ← hmid]
                    rfl
                  · exact hfirst
                  · have hsum := congrArg List.length hmid
                    have := List.length_pos_iff.mpr hinner
                    rw [List.singleton_append, List.length_cons, List.length_append] at hsum
                    omega

/-- The marks that a scan counts are those at the free places of the text, in order. -/
theorem marks_eq_filterMap_places (htakes : TakesText mark?) (cs : List Char) :
    marks mark? 0 cs = (places cs).filterMap (counted? mark?) := by
  apply marks_eq_filterMap_placesFrom htakes
  · intro middle rest _ hlt
    exact absurd hlt (Nat.not_lt_zero _)
  · intro middle rest _ hlength
    obtain rfl := List.length_eq_zero_iff.mp hlength
    exact isFree_nil rest

theorem mem_marks_iff (htakes : TakesText mark?) {cs : List Char} {mark : α} :
    mark ∈ marks mark? 0 cs ↔
      ∃ before rest, cs = before ++ rest ∧ IsFree mark? before rest ∧
        ∃ length, mark? rest = some (mark, length) := by
  rw [marks_eq_filterMap_places htakes, List.mem_filterMap]
  constructor
  · rintro ⟨⟨before, rest⟩, hplace, hcounted⟩
    exact ⟨before, rest, (mem_places.mp hplace).1, counted?_eq_some_iff.mp hcounted⟩
  · rintro ⟨before, rest, hcs, hfree, length, hmark⟩
    have hrest : rest ≠ [] := by
      rintro rfl
      cases htakes.nil.symm.trans hmark
    exact ⟨(before, rest), mem_places.mpr ⟨hcs, hrest⟩,
      counted?_eq_some_iff.mpr ⟨hfree, length, hmark⟩⟩

/-! ## The leftmost mark -/

/-- The first thing that a reader finds is what it reads at the leftmost place at which it reads
anything. -/
theorem findSome?_tails_eq_some_iff {β : Type} {read? : List Char → Option β} {cs : List Char}
    {found : β} :
    cs.tails.findSome? read? = some found ↔
      ∃ before rest, cs = before ++ rest ∧ read? rest = some found ∧
        ∀ earlier inner, before = earlier ++ inner → inner ≠ [] → read? (inner ++ rest) = none := by
  induction cs with
  | nil =>
      rw [List.tails, List.findSome?_singleton]
      constructor
      · intro h
        refine ⟨[], [], rfl, h, fun earlier inner hsplit hinner => ?_⟩
        exact absurd (List.append_eq_nil_iff.mp hsplit.symm).2 hinner
      · rintro ⟨before, rest, hsplit, hread, -⟩
        rwa [(List.append_eq_nil_iff.mp hsplit.symm).2] at hread
  | cons c cs ih =>
      rw [List.tails_cons, List.findSome?_cons]
      constructor
      · intro h
        cases hhere : read? (c :: cs) with
        | some other =>
            rw [hhere] at h
            refine ⟨[], c :: cs, rfl, hhere.trans h, fun earlier inner hsplit hinner => ?_⟩
            exact absurd (List.append_eq_nil_iff.mp hsplit.symm).2 hinner
        | none =>
            rw [hhere] at h
            obtain ⟨before, rest, rfl, hread, hnone⟩ := ih.mp h
            refine ⟨c :: before, rest, rfl, hread, fun earlier inner hsplit hinner => ?_⟩
            cases earlier with
            | nil =>
                obtain rfl : c :: before = inner := hsplit
                exact hhere
            | cons d earlier => exact hnone earlier inner (List.cons.inj hsplit).2 hinner
      · rintro ⟨before, rest, hsplit, hread, hnone⟩
        cases before with
        | nil =>
            obtain rfl : c :: cs = rest := hsplit
            rw [hread]
        | cons d before =>
            rw [List.cons_append, List.cons.injEq] at hsplit
            obtain ⟨rfl, rfl⟩ := hsplit
            have hhere : read? (c :: (before ++ rest)) = none :=
              hnone [] (c :: before) rfl (List.cons_ne_nil _ _)
            rw [hhere]
            refine ih.mpr ⟨before, rest, rfl, hread, fun earlier inner hbefore hinner => ?_⟩
            exact hnone (c :: earlier) inner (by rw [hbefore]; rfl) hinner

/-- The first mark that a scan counts is the leftmost one. -/
theorem head?_marks (hnil : mark? [] = none) (cs : List Char) :
    (marks mark? 0 cs).head? = cs.tails.findSome? fun rest => (mark? rest).map Prod.fst := by
  induction cs with
  | nil => simp [marks, hnil]
  | cons c rest ih =>
      rw [List.tails_cons, List.findSome?_cons, marks]
      cases mark? (c :: rest) with
      | none => exact ih
      | some found => rfl

/-! ## Marks that lie apart -/

/-- A scan counts every mark there is, if no mark ever begins inside another one. -/
theorem marks_eq_filterMap_tails (hnil : mark? [] = none)
    (hapart : ∀ inner rest mark length, inner ≠ [] → inner.length < length →
      mark? (inner ++ rest) = some (mark, length) → mark? rest = none) (cs : List Char) :
    marks mark? 0 cs = cs.tails.filterMap fun rest => (mark? rest).map Prod.fst := by
  -- The scan may still skip characters, but then no mark begins at any of these.
  have general : ∀ cs skipped,
      (∀ inner rest, cs = inner ++ rest → inner.length < skipped → mark? rest = none) →
      marks mark? skipped cs = cs.tails.filterMap fun rest => (mark? rest).map Prod.fst := by
    intro cs
    induction cs with
    | nil =>
        intro skipped _
        cases skipped <;> simp [marks, hnil]
    | cons c rest ih =>
        intro skipped hskipped
        rw [List.tails_cons, List.filterMap_cons]
        cases skipped with
        | succ left =>
            have hhere : mark? (c :: rest) = none := hskipped [] _ rfl (Nat.succ_pos left)
            rw [hhere, marks]
            apply ih
            intro inner last hsplit hlt
            exact hskipped (c :: inner) last (by rw [hsplit]; rfl) (Nat.succ_lt_succ hlt)
        | zero =>
            cases hhere : mark? (c :: rest) with
            | none =>
                rw [marks, hhere]
                apply ih
                intro inner last _ hlt
                exact absurd hlt (Nat.not_lt_zero _)
            | some found =>
                obtain ⟨mark, length⟩ := found
                rw [marks, hhere]
                apply congrArg (List.cons mark)
                apply ih
                intro inner last hsplit hlt
                refine hapart (c :: inner) last mark length (List.cons_ne_nil _ _) ?_ ?_
                · rw [List.length_cons]
                  omega
                · rw [List.cons_append, ← hsplit, hhere]
  apply general
  intro inner rest _ hlt
  exact absurd hlt (Nat.not_lt_zero _)

end SheetImport.ClassFeatures
