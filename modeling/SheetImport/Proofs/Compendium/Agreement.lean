import Mathlib.Tactic.Choose
import SheetImport.Proofs.Compendium.Session

/-!
# What lasts in a session

The first successful reading of a pack decides what the pack gives from then on, and everything that
is kept in memory agrees with it: the documents in the folder and the rows in the catalog.  This
agreement is the invariant of sessions.  Readings are only added, so a first reading remains the
first, and rows that are given up when they are read anew come back the same.
-/

namespace SheetImport.Session

/-! ## The invariant -/

/-- What is kept agrees with the first successful reading of each pack. -/
structure Sound (s : Session) : Prop where
  loaded : ∀ pack, Keyed.get? s.folder.loaded pack = s.disk.firstReading? pack
  named : ∀ pack documents, s.disk.firstReading? pack = some documents →
    PackFolder.isPackName pack
  rows : ∀ kind rows, s.catalog.rows? kind = some rows →
    ∃ documents, s.disk.firstReading? (s.catalog.packs.pack kind) = some documents ∧
      rows = documents.filterMap PackRow.ofDocument?

/-- What lasts from one session to a later one: the packs of the kinds, the readings and the rows. -/
structure Later (s t : Session) : Prop where
  packs : t.catalog.packs = s.catalog.packs
  readings : s.disk.readings <+: t.disk.readings
  rows : ∀ kind rows, s.catalog.rows? kind = some rows → t.catalog.rows? kind = some rows

theorem Later.refl (s : Session) : Later s s :=
  ⟨rfl, List.prefix_rfl, fun _ _ h => h⟩

theorem Later.trans {s t u : Session} (hst : Later s t) (htu : Later t u) : Later s u where
  packs := htu.packs.trans hst.packs
  readings := hst.readings.trans htu.readings
  rows := fun kind rows h => htu.rows kind rows (hst.rows kind rows h)

/-- A first successful reading remains the first. -/
theorem Later.firstReading {s t : Session} (h : Later s t) {pack : String} {documents : List Json}
    (hread : s.disk.firstReading? pack = some documents) :
    t.disk.firstReading? pack = some documents := by
  obtain ⟨more, hmore⟩ := h.readings
  rw [Disk.firstReading?] at hread ⊢
  rw [← hmore, List.findSome?_append, hread, Option.some_or]

theorem sound_start (packs : PackNames) (files : Directory) : (start packs files).Sound where
  loaded := fun _ => rfl
  named := fun _ _ h => by simp [start, Disk.firstReading?] at h
  rows := fun kind _ h => by cases kind <;> simp [start, Catalog.empty, Catalog.rows?] at h

/-! ## Getting at the documents of a pack -/

theorem fileName_injective : Function.Injective PackFolder.fileName := by
  intro left right heq
  have hchars := congrArg String.toList heq
  rw [PackFolder.fileName, PackFolder.fileName, String.toList_append, String.toList_append] at hchars
  exact String.toList_inj.mp (List.append_cancel_right hchars)

theorem packDocuments_of_read {s : Session} (hs : s.Sound) {pack : String} {documents : List Json}
    (hread : s.disk.firstReading? pack = some documents) :
    s.packDocuments pack = (.ok documents, s) := by
  apply ask_eq_of_run
  rw [PackFolder.documents, if_pos (hs.named pack documents hread), hs.loaded, hread]
  rfl

/-- The session behind a reading of a pack's file. -/
def reread (s : Session) (pack : String) : Session :=
  let content := s.disk.files (PackFolder.fileName pack)
  { s with
    folder := match PackFolder.documentsOf content with
      | .ok documents => ⟨Keyed.insert s.folder.loaded pack documents⟩
      | .error _ => s.folder
    disk := { s.disk with
      readings := s.disk.readings ++ [(PackFolder.fileName pack, content)] } }

theorem packDocuments_of_unread {s : Session} (hs : s.Sound) {pack : String}
    (hname : PackFolder.isPackName pack) (hread : s.disk.firstReading? pack = none) :
    s.packDocuments pack =
      (PackFolder.documentsOf (s.disk.files (PackFolder.fileName pack)), s.reread pack) := by
  apply ask_eq_of_run
  rw [PackFolder.documents, if_pos hname, hs.loaded, hread]
  simp only [bind, StateT.bind, Disk.read]
  cases PackFolder.documentsOf (s.disk.files (PackFolder.fileName pack)) <;> rfl

theorem packDocuments_of_misnamed (s : Session) {pack : String}
    (hname : ¬PackFolder.isPackName pack) :
    s.packDocuments pack = (.error .invalidName, s) := by
  apply ask_eq_of_run
  rw [PackFolder.documents, if_neg hname]
  rfl

theorem documentsFor?_fileName (pack other : String) (content : Except FileFailure String) :
    Disk.documentsFor? other (PackFolder.fileName pack, content) =
      if pack = other then (PackFolder.documentsOf content).toOption else none := by
  simp only [Disk.documentsFor?, fileName_injective.eq_iff]

theorem firstReading?_reread (s : Session) (pack other : String) :
    (s.reread pack).disk.firstReading? other =
      (s.disk.firstReading? other).or
        (if pack = other then
          (PackFolder.documentsOf (s.disk.files (PackFolder.fileName pack))).toOption
        else none) := by
  rw [Disk.firstReading?, reread, List.findSome?_append, List.findSome?_singleton,
    documentsFor?_fileName]
  rfl

theorem later_reread (s : Session) (pack : String) : Later s (s.reread pack) :=
  ⟨rfl, List.prefix_append _ _, fun _ _ h => h⟩

theorem Sound.reread {s : Session} (hs : s.Sound) {pack : String}
    (hname : PackFolder.isPackName pack) (hread : s.disk.firstReading? pack = none) :
    (s.reread pack).Sound where
  loaded := by
    intro other
    rw [firstReading?_reread, ← hs.loaded, Session.reread]
    cases PackFolder.documentsOf (s.disk.files (PackFolder.fileName pack)) with
    | error failure => simp [Except.toOption]
    | ok documents =>
        rw [Keyed.get?_insert]
        by_cases hother : pack = other
        · subst hother
          simp [hs.loaded, hread, Except.toOption]
        · simp [hother]
  named := by
    intro other documents h
    rw [firstReading?_reread] at h
    by_cases hother : pack = other
    · exact hother ▸ hname
    · rw [if_neg hother, Option.or_none] at h
      exact hs.named other documents h
  rows := by
    intro kind rows h
    obtain ⟨documents, hdocuments, hrows⟩ := hs.rows kind rows h
    exact ⟨documents, (later_reread s pack).firstReading hdocuments, hrows⟩

/-- Getting at the documents of a pack keeps the invariant.  It succeeds just if the pack has been
read by then, and gives what the first successful reading gave. -/
theorem packDocuments_spec {s : Session} (hs : s.Sound) (pack : String) :
    (s.packDocuments pack).2.Sound ∧ Later s (s.packDocuments pack).2 ∧
      ∀ documents, (s.packDocuments pack).1 = .ok documents →
        (s.packDocuments pack).2.disk.firstReading? pack = some documents := by
  by_cases hname : PackFolder.isPackName pack
  · cases hread : s.disk.firstReading? pack with
    | some documents =>
        rw [packDocuments_of_read hs hread]
        refine ⟨hs, Later.refl s, fun other hother => ?_⟩
        rw [← Except.ok.inj hother]
        exact hread
    | none =>
        rw [packDocuments_of_unread hs hname hread]
        refine ⟨hs.reread hname hread, later_reread s pack, fun documents hdocuments => ?_⟩
        rw [firstReading?_reread, hread, if_pos rfl]
        exact congrArg Except.toOption hdocuments
  · rw [packDocuments_of_misnamed s hname]
    exact ⟨hs, Later.refl s, fun _ h => nomatch h⟩

/-! ## Reading rows -/

theorem rows?_keep (catalog : Catalog) (kind other : ItemKind) (rows : List PackRow) :
    (catalog.keep kind rows).rows? other =
      if kind = other then some rows else catalog.rows? other := by
  cases kind <;> cases other <;> rfl

@[simp] theorem packs_keep (catalog : Catalog) (kind : ItemKind) (rows : List PackRow) :
    (catalog.keep kind rows).packs = catalog.packs := by
  cases kind <;> rfl

/-- The session behind reading the rows for some kinds. -/
def populated (s : Session) (kinds : List ItemKind) : Session :=
  let (catalog, next) := s.ask (Catalog.populateKinds compendium s.catalog kinds)
  { next with catalog }

theorem populated_of_isPopulated {s : Session} {kind : ItemKind} (h : s.catalog.isPopulated kind)
    (rest : List ItemKind) : s.populated (kind :: rest) = s.populated rest := by
  rw [populated, Catalog.populateKinds, if_pos h]
  rfl

/-- The session in which the rows for a kind are kept, if there are any to keep. -/
def keeping (s : Session) (kind : ItemKind) : Except MatchError (List PackRow) → Session
  | .ok rows => { s with catalog := s.catalog.keep kind rows }
  | .error _ => s

/-- The session behind reading the rows for one kind. -/
def indexed (s : Session) (kind : ItemKind) : Session :=
  let pack := s.catalog.packs.pack kind
  (s.packDocuments pack).2.keeping kind (indexAnswer pack (s.packDocuments pack).1)

theorem populated_of_not_isPopulated {s : Session} {kind : ItemKind}
    (h : ¬s.catalog.isPopulated kind) (rest : List ItemKind) :
    s.populated (kind :: rest) = (s.indexed kind).populated rest := by
  rw [populated, Catalog.populateKinds, if_neg h, ask_bind, ask_index, indexed]
  cases (s.packDocuments (s.catalog.packs.pack kind)).1 <;> rfl

theorem Sound.keeping {s : Session} (hs : s.Sound) {kind : ItemKind} {documents : List Json}
    (hread : s.disk.firstReading? (s.catalog.packs.pack kind) = some documents) :
    (s.keeping kind (.ok (documents.filterMap PackRow.ofDocument?))).Sound where
  loaded := hs.loaded
  named := hs.named
  rows := by
    intro other rows h
    simp only [Session.keeping, rows?_keep, packs_keep] at h ⊢
    by_cases hkind : kind = other
    · subst hkind
      rw [if_pos rfl, Option.some.injEq] at h
      exact ⟨documents, hread, h.symm⟩
    · rw [if_neg hkind] at h
      exact hs.rows other rows h

theorem later_keeping {s : Session} {kind : ItemKind} (h : ¬s.catalog.isPopulated kind)
    (rows : List PackRow) : Later s (s.keeping kind (.ok rows)) where
  packs := packs_keep _ _ _
  readings := List.prefix_rfl
  rows := by
    intro other kept hkept
    have hother : kind ≠ other := by
      rintro rfl
      exact h (by rw [Catalog.isPopulated, hkept]; rfl)
    rw [Session.keeping, rows?_keep, if_neg hother, hkept]

theorem indexed_spec {s : Session} (hs : s.Sound) {kind : ItemKind}
    (h : ¬s.catalog.isPopulated kind) :
    (s.indexed kind).Sound ∧ Later s (s.indexed kind) ∧
      ∀ documents, s.disk.firstReading? (s.catalog.packs.pack kind) = some documents →
        (s.indexed kind).catalog.rows? kind =
          some (documents.filterMap PackRow.ofDocument?) := by
  obtain ⟨hsound, hlater, hdocuments⟩ := packDocuments_spec hs (s.catalog.packs.pack kind)
  rw [indexed]
  cases hresult : (s.packDocuments (s.catalog.packs.pack kind)).1 with
  | error failure =>
      -- A pack that has been read does not fail.
      refine ⟨hsound, hlater, fun documents hread => ?_⟩
      rw [packDocuments_of_read hs hread] at hresult
      exact nomatch hresult
  | ok documents =>
      have hread := hdocuments documents hresult
      have hunkept : ¬(s.packDocuments (s.catalog.packs.pack kind)).2.catalog.isPopulated kind := h
      refine ⟨hsound.keeping hread, hlater.trans (later_keeping hunkept _), fun first hfirst => ?_⟩
      rw [hlater.firstReading hfirst, Option.some.injEq] at hread
      rw [hread, indexAnswer, keeping, rows?_keep, if_pos rfl]

/-- Reading rows keeps the invariant and what was there.  The kinds whose packs had been read before
have rows in the end. -/
theorem populated_spec (kinds : List ItemKind) {s : Session} (hs : s.Sound) :
    (s.populated kinds).Sound ∧ Later s (s.populated kinds) ∧
      ∀ kind ∈ kinds, ∀ documents,
        s.disk.firstReading? (s.catalog.packs.pack kind) = some documents →
          (s.populated kinds).catalog.rows? kind =
            some (documents.filterMap PackRow.ofDocument?) := by
  -- The session changes from kind to kind, so the induction is over the kinds for every session that
  -- keeps the invariant.
  induction kinds generalizing s with
  | nil => exact ⟨hs, Later.refl s, fun _ h => nomatch h⟩
  | cons kind rest ih =>
      by_cases hkind : s.catalog.isPopulated kind
      · rw [populated_of_isPopulated hkind]
        obtain ⟨hsound, hlater, hrest⟩ := ih hs
        refine ⟨hsound, hlater, fun other hother documents hread => ?_⟩
        rcases List.mem_cons.mp hother with rfl | hother
        -- Rows that are kept already are those of the first reading, by the invariant.
        · obtain ⟨rows, hrows⟩ := Option.isSome_iff_exists.mp hkind
          obtain ⟨first, hfirst, rfl⟩ := hs.rows other rows hrows
          rw [hread, Option.some.injEq] at hfirst
          rw [hlater.rows other _ hrows, hfirst]
        · exact hrest other hother documents hread
      · rw [populated_of_not_isPopulated hkind]
        obtain ⟨hindexed, hfirst, hown⟩ := indexed_spec hs hkind
        obtain ⟨hsound, hlater, hrest⟩ := ih hindexed
        refine ⟨hsound, hfirst.trans hlater, fun other hother documents hread => ?_⟩
        rcases List.mem_cons.mp hother with rfl | hother
        · exact hlater.rows other _ (hown documents hread)
        · refine hrest other hother documents ?_
          rw [hfirst.packs]
          exact hfirst.firstReading hread

/-- The session in which no rows are kept. -/
def cleared (s : Session) : Session :=
  { s with catalog := Catalog.empty s.catalog.packs }

theorem Sound.cleared {s : Session} (hs : s.Sound) : s.cleared.Sound where
  loaded := hs.loaded
  named := hs.named
  rows := fun kind _ h => by cases kind <;> simp [Session.cleared, Catalog.empty, Catalog.rows?] at h

theorem mem_packOrder (kind : ItemKind) : kind ∈ packOrder := by
  cases kind <;> decide

/-- Reading all rows anew brings back the rows that were there, from the documents in memory. -/
theorem later_populated_cleared {s : Session} (hs : s.Sound) :
    Later s (s.cleared.populated packOrder) := by
  obtain ⟨-, hlater, hrows⟩ := populated_spec packOrder hs.cleared
  refine ⟨hlater.packs, hlater.readings, fun kind rows h => ?_⟩
  obtain ⟨documents, hread, rfl⟩ := hs.rows kind rows h
  exact hrows kind (mem_packOrder kind) documents hread

/-! ## Matching -/

/-- An item is matched from memory alone: a row that is found belongs to a pack that has been read. -/
theorem ask_matchItem {s : Session} (hs : s.Sound) (item : Item) :
    ∃ found, s.ask (s.catalog.matchItem compendium item) = (.ok found, s) := by
  rw [Catalog.matchItem]
  cases hrow : s.catalog.findFirst item.kind fun row => isFuzzyMatch row.name item.name with
  | none => exact ⟨none, rfl⟩
  | some row =>
      have hrows : ∃ rows, s.catalog.rows? item.kind = some rows := by
        rw [Catalog.findFirst, Catalog.entries] at hrow
        cases hkept : s.catalog.rows? item.kind with
        | none => simp [hkept] at hrow
        | some rows => exact ⟨rows, rfl⟩
      obtain ⟨rows, hrows⟩ := hrows
      obtain ⟨documents, hread, -⟩ := hs.rows item.kind rows hrows
      have hentry : s.ask (s.catalog.fetch compendium item.kind row.id) =
          (.ok (documents.find? (PackFolder.hasId row.id)), s) := by
        rw [Catalog.fetch, ask_entry, packDocuments_of_read hs hread]
        rfl
      simp only [ask_bind, hentry]
      cases documents.find? (PackFolder.hasId row.id) with
      | none => exact ⟨none, rfl⟩
      | some document => exact ⟨_, rfl⟩

theorem ask_outcome {s : Session} {item : Item} {found : Option Match}
    (hfound : s.ask (s.catalog.matchItem compendium item) = (.ok found, s)) :
    s.ask (s.catalog.outcome compendium item) = (⟨item, found⟩, s) := by
  rw [Catalog.outcome, ask_bind, hfound]
  cases found <;> rfl

/-- When every item is matched without a change to the session, so are all of them together. -/
theorem ask_matchItems {s : Session} {foundOf : Item → Option Match}
    (hfound : ∀ item, s.ask (s.catalog.matchItem compendium item) = (.ok (foundOf item), s))
    (items : List Item) :
    s.ask (s.catalog.matchItems compendium items) =
      (items.map fun item => ⟨item, foundOf item⟩, s) := by
  have houtcomes : s.ask (s.catalog.outcomes compendium items) =
      (items.map fun item => ⟨item, foundOf item⟩, s) := by
    induction items with
    | nil => rfl
    | cons item rest ih =>
        rw [Catalog.outcomes]
        simp only [ask_bind, ask_outcome (hfound item), ih, ask_pure, List.map_cons]
  rw [Catalog.matchItems]
  simp only [ask_bind, houtcomes, ask_log, ask_pure]

/-! ## Runs -/

/-- Every operation keeps the invariant, and what was there lasts. -/
theorem perform_spec {s : Session} (hs : s.Sound) (operation : Operation) :
    (s.perform operation).2.Sound ∧ Later s (s.perform operation).2 := by
  cases operation with
  | populate =>
      obtain ⟨hsound, hlater, -⟩ := populated_spec packOrder hs
      exact ⟨hsound, hlater⟩
  | refresh =>
      obtain ⟨hsound, -, -⟩ := populated_spec packOrder hs.cleared
      exact ⟨hsound, later_populated_cleared hs⟩
  | search kind query => exact ⟨hs, Later.refl s⟩
  | findFirst kind accepts => exact ⟨hs, Later.refl s⟩
  | fetch kind id =>
      obtain ⟨hsound, hlater, -⟩ := packDocuments_spec hs (s.catalog.packs.pack kind)
      exact ⟨hsound, hlater⟩
  | matchItem item =>
      obtain ⟨found, hfound⟩ := ask_matchItem hs item
      rw [perform, hfound]
      exact ⟨hs, Later.refl s⟩
  | matchItems items =>
      choose foundOf hfound using ask_matchItem hs
      rw [perform, ask_matchItems hfound]
      exact ⟨hs, Later.refl s⟩
  | index pack =>
      obtain ⟨hsound, hlater, -⟩ := packDocuments_spec hs pack
      rw [perform, ask_index]
      exact ⟨hsound, hlater⟩
  | entry pack id =>
      obtain ⟨hsound, hlater, -⟩ := packDocuments_spec hs pack
      exact ⟨hsound, hlater⟩
  | change files =>
      exact ⟨⟨hs.loaded, hs.named, hs.rows⟩, ⟨rfl, List.prefix_rfl, fun _ _ h => h⟩⟩

theorem after_spec (operations : List Operation) {s : Session} (hs : s.Sound) :
    (s.after operations).Sound ∧ Later s (s.after operations) := by
  induction operations generalizing s with
  | nil => exact ⟨hs, Later.refl s⟩
  | cons operation rest ih =>
      obtain ⟨hsound, hlater⟩ := perform_spec hs operation
      obtain ⟨hrest, hlast⟩ := ih hsound
      exact ⟨hrest, hlater.trans hlast⟩

end SheetImport.Session
