import SheetImport.EnvironmentFile.Assignments
import SheetImport.Proofs.Text.Trimming

/-!
# Plain environment files

The value of an assignment is plain when it refers to no variable and has no NUL in it.  Plain values
do not depend on what is set already and can always be assigned, so in a file of plain values the
first assignment to a name decides.  A file without dollar signs and NULs is plain, however it is
written.
-/

namespace SheetImport

theorem Keyed.get?_append_singleton {α : Type} (entries : Keyed α) (key : String) (value : α)
    (name : String) : get? (entries ++ [(key, value)]) name =
      (get? entries name).or (if key = name then some value else none) := by
  induction entries with
  | nil => rfl
  | cons entry rest ih =>
      by_cases hkey : entry.1 = name <;> simp [get?, hkey, ih]

namespace EnvironmentFile

/-- Whether the value of an assignment refers to no variable and has no NUL in it, which no variable
can hold. -/
def Assignment.IsPlain (assignment : Assignment) : Prop :=
  ∀ part ∈ assignment.value, ∃ c, part = .char c ∧ c ≠ '\x00'

/-- The text of a value that refers to no variable. -/
def Assignment.text (assignment : Assignment) : String :=
  String.ofList (assignment.value.flatMap (Part.chars []))

/-- The text that the first assignment to a name gives it. -/
def first? (assignments : List Assignment) (name : String) : Option String :=
  (assignments.find? fun assignment => assignment.name = name).map Assignment.text

/-! ## Carrying out -/

theorem Assignment.IsPlain.chars {assignment : Assignment} (h : assignment.IsPlain)
    (set : Keyed String) : assignment.value.flatMap (Part.chars set) = assignment.text.toList := by
  rw [text, String.toList_ofList]
  refine List.flatMap_congr fun part hpart => ?_
  obtain ⟨c, rfl, -⟩ := h part hpart
  rfl

theorem Assignment.IsPlain.not_mem_text {assignment : Assignment} (h : assignment.IsPlain) :
    '\x00' ∉ assignment.text.toList := by
  rw [← h.chars [], List.mem_flatMap]
  rintro ⟨part, hpart, hnul⟩
  obtain ⟨c, rfl, hc⟩ := h part hpart
  exact hc (List.mem_singleton.mp hnul).symm

theorem Assignment.IsPlain.assign_cons {assignment : Assignment} (h : assignment.IsPlain)
    (set : Keyed String) (rest : List Assignment) : assign set (assignment :: rest) =
      if (Keyed.get? set assignment.name).isSome then assign set rest
      else assign (set ++ [(assignment.name, assignment.text)]) rest := by
  simp [assign, h.chars, h.not_mem_text]

/-- Plain assignments are all carried out, and what is set before goes before them. -/
theorem assign_of_isPlain {assignments : List Assignment}
    (hplain : ∀ assignment ∈ assignments, assignment.IsPlain) (set : Keyed String) :
    ∃ all, assign set assignments = .ok all ∧
      ∀ name, Keyed.get? all name = (Keyed.get? set name).or (first? assignments name) := by
  induction assignments generalizing set with
  | nil => exact ⟨set, rfl, fun name => by simp [first?]⟩
  | cons assignment rest ih =>
      obtain ⟨hfirst, hrest⟩ := List.forall_mem_cons.mp hplain
      rw [hfirst.assign_cons]
      split
      case isTrue hset =>
        obtain ⟨all, hall, hget⟩ := ih hrest set
        refine ⟨all, hall, fun name => ?_⟩
        rw [hget]
        by_cases hname : assignment.name = name
        · subst hname
          obtain ⟨value, hvalue⟩ := Option.isSome_iff_exists.mp hset
          simp [hvalue]
        · simp [first?, hname]
      case isFalse hset =>
        obtain ⟨all, hall, hget⟩ := ih hrest (set ++ [(assignment.name, assignment.text)])
        refine ⟨all, hall, fun name => ?_⟩
        rw [hget, Keyed.get?_append_singleton, Option.or_assoc]
        by_cases hname : assignment.name = name <;> simp [first?, hname]

/-! ## Characters of values -/

/-- Whether a character can stand in a plain file: it is neither a dollar sign nor NUL. -/
def isPlainChar (c : Char) : Bool :=
  c != '$' && c != '\x00'

theorem isPlainChar_iff {c : Char} : isPlainChar c ↔ c ≠ '$' ∧ c ≠ '\x00' := by
  simp [isPlainChar]

/-- Whether the name of a variable is being read. -/
def Mode.readsName : Mode → Bool
  | .name _ _ => true
  | .braced _ _ => true
  | _ => false

/-- Whether no name is being read and all parts so far are characters other than NUL. -/
structure Draft.IsPlain (draft : Draft) : Prop where
  mode : draft.mode.readsName = false
  parts : ∀ part ∈ draft.parts, ∃ c, part = .char c ∧ c ≠ '\x00'

namespace Draft.IsPlain

variable {draft next : Draft}

theorem enter (h : draft.IsPlain) {mode : Mode} (hmode : mode.readsName = false) :
    (draft.to mode).IsPlain :=
  ⟨hmode, h.parts⟩

theorem push (h : draft.IsPlain) {c : Char} (hc : c ≠ '\x00') : (draft.push c).IsPlain :=
  ⟨h.mode, List.forall_mem_cons.mpr ⟨⟨c, rfl, hc⟩, h.parts⟩⟩

theorem escaped?_ne_nul {c d : Char} (hc : c ≠ '\x00') (h : escaped? c = some d) :
    d ≠ '\x00' := by
  unfold escaped? at h
  split at h
  · cases h
    decide
  · split at h <;> cases h
    exact hc

/-- A plain character starts no name. -/
theorem step (h : draft.IsPlain) {c : Char} (hc : isPlainChar c)
    (hstep : draft.step c = some next) : next.IsPlain := by
  obtain ⟨hdollar, hnul⟩ := isPlainChar_iff.mp hc
  obtain ⟨mode, parts⟩ := draft
  cases mode with
  | name quoted chars => cases h.mode
  | braced quoted chars => cases h.mode
  | comment => exact Option.some.inj hstep ▸ h
  | behind =>
      simp only [Draft.step] at hstep
      split at hstep
      · exact Option.some.inj hstep ▸ h
      · split at hstep <;> cases hstep
        exact h.enter rfl
  | strong =>
      simp only [Draft.step] at hstep
      split at hstep <;> cases hstep
      · exact h.enter rfl
      · exact h.push hnul
  | text quoted escaped =>
      cases escaped with
      | true =>
          obtain ⟨d, hd, rfl⟩ := Option.map_eq_some_iff.mp hstep
          exact (h.enter rfl).push (escaped?_ne_nul hnul hd)
      | false =>
          simp only [Draft.step, hdollar, if_false, Option.some.injEq] at hstep
          subst hstep
          split_ifs
          all_goals first | exact h.enter rfl | exact h.push hnul

theorem foldlM (h : draft.IsPlain) {cs : List Char} (hcs : ∀ c ∈ cs, isPlainChar c)
    (hread : cs.foldlM Draft.step draft = some next) : next.IsPlain := by
  induction cs generalizing draft with
  | nil => exact Option.some.inj hread ▸ h
  | cons c rest ih =>
      obtain ⟨hc, hrest⟩ := List.forall_mem_cons.mp hcs
      obtain ⟨middle, hstep, hread⟩ := Option.bind_eq_some_iff.mp hread
      exact ih (h.step hc hstep) hrest hread

end Draft.IsPlain

theorem plain_of_value? {cs : List Char} (hcs : ∀ c ∈ cs, isPlainChar c) {value : List Part}
    (hvalue : value? cs = some value) : ∀ part ∈ value, ∃ c, part = .char c ∧ c ≠ '\x00' := by
  obtain ⟨draft, hread, hfinish⟩ := Option.bind_eq_some_iff.mp hvalue
  have hdraft : draft.IsPlain := Draft.IsPlain.foldlM ⟨rfl, by simp⟩ hcs hread
  have hparts : value = draft.parts.reverse := by
    obtain ⟨mode, parts⟩ := draft
    cases mode with
    | name quoted chars => cases hdraft.mode
    | text quoted escaped =>
        cases quoted <;> cases hfinish
        rfl
    | _ => cases hfinish <;> rfl
  rw [hparts]
  exact fun part hpart => hdraft.parts part (List.mem_reverse.mp hpart)

/-! ## Characters of entries -/

theorem name?_sublist {cs name rest : List Char} (h : name? cs = some (name, rest)) :
    rest.Sublist cs := by
  unfold name? at h
  split at h <;> cases h
  exact (List.dropWhile_sublist _).trans (List.dropWhile_sublist _)

theorem behindEquals?_sublist {cs value : List Char} (h : behindEquals? cs = some value) :
    value.Sublist cs := by
  unfold behindEquals? at h
  split at h <;> cases h
  exact (List.dropWhile_sublist _).trans (List.sublist_cons_self _ _)

theorem parts?_sublist {cs name value : List Char} (h : parts? cs = some (name, value)) :
    value.Sublist cs := by
  unfold parts? at h
  split at h
  case h_1 => cases h
  case h_2 first rest hfirst =>
    have hrest := name?_sublist hfirst
    split at h
    case h_1 found hvalue =>
      cases h
      exact (behindEquals?_sublist hvalue).trans hrest
    case h_2 =>
      split at h
      case isFalse => cases h
      case isTrue =>
        split at h
        case h_1 => cases h
        case h_2 second behind hsecond =>
          obtain ⟨found, hvalue, hfound⟩ := Option.map_eq_some_iff.mp h
          cases hfound
          exact ((behindEquals?_sublist hvalue).trans (name?_sublist hsecond)).trans hrest

theorem trimChars_sublist (cs : List Char) : (Text.trimChars cs).Sublist cs := by
  rw [Text.trimChars_eq_rdropWhile]
  exact (List.rdropWhile_prefix _ _).sublist.trans (List.dropWhile_sublist _)

theorem isPlain_of_readEntry {cs : List Char} (hcs : ∀ c ∈ cs, isPlainChar c)
    {assignment : Assignment} (h : readEntry cs = .assignment assignment) :
    assignment.IsPlain := by
  unfold readEntry at h
  simp only at h
  split at h
  case isTrue => cases h
  case isFalse =>
    split at h
    case h_1 => cases h
    case h_2 name text hparts =>
      split at h
      case isTrue =>
        cases h
        simp [Assignment.IsPlain]
      case isFalse =>
        split at h
        case h_1 => cases h
        case h_2 value hvalue =>
          cases h
          have hsublist := (parts?_sublist hparts).trans (trimChars_sublist cs)
          exact plain_of_value? (fun c hc => hcs c (hsublist.subset hc)) hvalue

theorem isPlain_of_assignmentsOf {entries : List (List Char)}
    (hentries : ∀ entry ∈ entries, ∀ c ∈ entry, isPlainChar c) :
    ∀ assignment ∈ assignmentsOf entries, assignment.IsPlain := by
  induction entries with
  | nil => simp [assignmentsOf]
  | cons entry rest ih =>
      obtain ⟨hentry, hrest⟩ := List.forall_mem_cons.mp hentries
      rw [assignmentsOf]
      split
      case h_1 => exact ih hrest
      case h_2 assignment hread =>
        exact List.forall_mem_cons.mpr ⟨isPlain_of_readEntry hentry hread, ih hrest⟩
      case h_3 => simp

/-! ## Characters of lines -/

theorem Scan.line_starts (scan : Scan) (cs : List Char) : (scan.line cs).1 <+: cs := by
  induction cs generalizing scan with
  | nil => exact List.nil_prefix
  | cons c rest ih =>
      rw [line]
      cases scan.step c with
      | none => exact List.nil_prefix
      | some next => exact List.cons_prefix_cons.mpr ⟨rfl, ih next⟩

theorem forall_mem_entriesFrom {holds : Char → Prop} {lines : List (List Char)}
    (hlines : ∀ line ∈ lines, ∀ c ∈ line, holds c) {begun : List Char}
    (hbegun : ∀ c ∈ begun, holds c) (scan : Scan) :
    ∀ entry ∈ entriesFrom begun scan lines, ∀ c ∈ entry, holds c := by
  induction lines generalizing begun scan with
  | nil => simp [entriesFrom]
  | cons line rest ih =>
      obtain ⟨hline, hrest⟩ := List.forall_mem_cons.mp hlines
      have hboth : ∀ c ∈ begun ++ line, holds c := List.forall_mem_append.mpr ⟨hbegun, hline⟩
      have hnone : ∀ c ∈ ([] : List Char), holds c := by simp
      rw [entriesFrom]
      split
      case isTrue => exact ih hrest hnone .plain
      case isFalse =>
        split
        case h_1 before hbefore =>
          have hstart : before <+: line := by simpa [hbefore] using scan.line_starts line
          refine List.forall_mem_cons.mpr ⟨?_, ih hrest hnone .plain⟩
          exact List.forall_mem_append.mpr ⟨hbegun, fun c hc => hline c (hstart.subset hc)⟩
        case h_2 => exact List.forall_mem_cons.mpr ⟨hboth, ih hrest hnone .plain⟩
        case h_3 stop _ _ => exact ih hrest hboth stop

theorem forall_mem_withoutMark {holds : Char → Prop} {lines : List (List Char)}
    (hlines : ∀ line ∈ lines, ∀ c ∈ line, holds c) :
    ∀ line ∈ withoutMark lines, ∀ c ∈ line, holds c := by
  unfold withoutMark
  split
  case h_1 line rest =>
    obtain ⟨hline, hrest⟩ := List.forall_mem_cons.mp hlines
    exact List.forall_mem_cons.mpr ⟨fun c hc => hline c (List.mem_cons_of_mem _ hc), hrest⟩
  case h_2 => exact hlines

/-! ## Bytes -/

theorem toList_loop (bytes : ByteArray) (i : Nat) (read : List UInt8) :
    ByteArray.toList.loop bytes i read = read.reverse ++ bytes.data.toList.drop i := by
  fun_induction ByteArray.toList.loop bytes i read with
  | case1 i read hlt ih =>
      have hi : i < bytes.data.toList.length := by simpa using hlt
      have hget : bytes.get! i = bytes.data.toList[i] := getElem!_pos bytes.data i hlt
      rw [ih, List.drop_eq_getElem_cons hi, hget]
      simp
  | case2 i read hge =>
      have hi : bytes.data.toList.length ≤ i := by simpa using hge
      simp [List.drop_eq_nil_of_le hi]

theorem toList_eq_data (bytes : ByteArray) : bytes.toList = bytes.data.toList := by
  rw [ByteArray.toList, toList_loop]
  rfl

theorem flatten_byteLines (bytes : List UInt8) : (byteLines bytes).flatten = bytes := by
  induction bytes with
  | nil => rfl
  | cons b rest ih =>
      rw [byteLines]
      split
      case isTrue => rw [List.flatten_cons, ih, List.singleton_append]
      case isFalse =>
        cases hlines : byteLines rest with
        | nil =>
            rw [hlines] at ih
            simp [← ih]
        | cons line lines =>
            rw [hlines] at ih
            simp [← ih]

/-- A character of ASCII stands as itself among the bytes of a text. -/
theorem mem_of_fromUTF8? {bytes : ByteArray} {s : String} (hs : String.fromUTF8? bytes = some s)
    {c : Char} (hc : c ∈ s.toList) (hascii : c.toNat ≤ 0x7f) :
    UInt8.ofNat c.toNat ∈ bytes.data.toList := by
  have hbytes : bytes = s.toByteArray := by
    unfold String.fromUTF8? at hs
    split at hs <;> cases hs
    rfl
  have hcode : String.utf8EncodeChar c = [UInt8.ofNat c.toNat] := if_pos hascii
  rw [hbytes, ← String.utf8Encode_toList, List.utf8Encode, List.toList_data_toByteArray,
    List.mem_flatMap]
  exact ⟨c, hc, by rw [hcode]; exact List.mem_singleton_self _⟩

/-- Whether there is neither a dollar sign nor a NUL among some bytes. -/
def arePlain (bytes : List UInt8) : Bool :=
  bytes.all fun b => b != 0x24 && b != 0

theorem arePlain_iff {bytes : List UInt8} :
    arePlain bytes ↔ ∀ b ∈ bytes, b ≠ 0x24 ∧ b ≠ 0 := by
  simp [arePlain]

theorem forall_mem_decoded {lines : List (List UInt8)}
    (hlines : ∀ line ∈ lines, arePlain line) :
    ∀ line ∈ decoded lines, ∀ c ∈ line, isPlainChar c := by
  induction lines with
  | nil => simp [decoded]
  | cons line rest ih =>
      obtain ⟨hline, hrest⟩ := List.forall_mem_cons.mp hlines
      rw [decoded]
      split
      case h_2 => simp
      case h_1 s hs =>
        refine List.forall_mem_cons.mpr ⟨fun c hc => isPlainChar_iff.mpr ⟨?_, ?_⟩, ih hrest⟩
        · rintro rfl
          exact (arePlain_iff.mp hline _ (mem_of_fromUTF8? hs hc (by decide))).1 rfl
        · rintro rfl
          exact (arePlain_iff.mp hline _ (mem_of_fromUTF8? hs hc (by decide))).2 rfl

/-- In a file without dollar signs and NULs every assignment is plain. -/
theorem isPlain_of_arePlain {bytes : ByteArray} (hplain : arePlain bytes.toList) :
    ∀ assignment ∈ assignments bytes, assignment.IsPlain := by
  have hbytes : ∀ line ∈ byteLines bytes.toList, arePlain line := by
    refine fun line hline => arePlain_iff.mpr fun b hb => arePlain_iff.mp hplain b ?_
    rw [← flatten_byteLines bytes.toList]
    exact List.mem_flatten_of_mem hline hb
  have hlines : ∀ line ∈ textLines bytes, ∀ c ∈ line, isPlainChar c :=
    forall_mem_withoutMark (forall_mem_decoded hbytes)
  have hentries : ∀ entry ∈ entries bytes, ∀ c ∈ entry, isPlainChar c :=
    forall_mem_entriesFrom hlines (by simp) .plain
  exact isPlain_of_assignmentsOf hentries

end EnvironmentFile

end SheetImport
