import Mathlib
import SheetImport.Proofs.Compendium.Runs

/-!
# Rows and the documents behind them

The rows of a pack are read from its documents, and the document behind a row is looked up by the
row's id.  An id leads to the first object that has it.  That is the document the row was read from
unless an earlier object has the same id; then the row is answered with that earlier document, which
can have another name.
-/

namespace SheetImport

/-! ## What a row tells -/

def Json.isObject : Json → Bool
  | .object _ => true
  | _ => false

/-- A row tells the id, the name and the image of a document.  No image is told where the document
has none or a null for it. -/
structure PackRow.Tells (row : PackRow) (document : Json) : Prop where
  id : document.member? "_id" = some (.text row.id)
  name : document.member? "name" = some (.text row.name)
  image : document.member? "img" = row.image.map Json.text ∨
    (row.image = none ∧ document.member? "img" = some .null)

theorem Json.exists_members_of_isObject {document : Json} (h : document.isObject) :
    ∃ members, document = .object members := by
  cases document with
  | object members => exact ⟨members, rfl⟩
  | _ => simp [Json.isObject] at h

theorem eq_ofText?_of_optionalText? {document : Json} {text : Option String}
    (h : optionalText? document = some text) : document = Json.ofText? text := by
  cases document with
  | null => cases h; rfl
  | text s => cases h; rfl
  | _ => simp [optionalText?] at h

theorem PackRow.tells_of_ofDocument? {document : Json} {row : PackRow}
    (hobject : document.isObject) (hrow : PackRow.ofDocument? document = some row) :
    row.Tells document := by
  obtain ⟨members, rfl⟩ := Json.exists_members_of_isObject hobject
  rw [PackRow.ofDocument?] at hrow
  split at hrow
  case h_1 id name hid hname =>
    obtain ⟨image, himage, rfl⟩ := Option.map_eq_some_iff.mp hrow
    refine ⟨hid, hname, ?_⟩
    rw [Json.member?]
    cases hmember : Keyed.get? members "img" with
    | none =>
        rw [hmember] at himage
        cases himage
        exact .inl rfl
    | some value =>
        rw [hmember] at himage
        have hvalue : value = Json.ofText? image := eq_ofText?_of_optionalText? himage
        subst hvalue
        cases image with
        | none => exact .inr ⟨rfl, rfl⟩
        | some text => exact .inl rfl
  case h_2 => simp at hrow

/-! ## Looking up by id -/

namespace PackFolder

theorem hasId_iff {id : String} {document : Json} :
    hasId id document ↔ document.member? "_id" = some (.text id) := by
  rw [hasId, beq_iff_eq, Option.bind_eq_some_iff]
  constructor
  · rintro ⟨value, hmember, htext⟩
    cases value with
    | text s => cases htext; exact hmember
    | _ => simp [Json.text?] at htext
  · intro hmember
    exact ⟨_, hmember, rfl⟩

/-- Whether a document is the first of some documents that has the id. -/
def IsFirstWithId (documents : List Json) (id : String) (found : Json) : Prop :=
  ∃ before after, documents = before ++ found :: after ∧
    found.member? "_id" = some (.text id) ∧
    ∀ earlier ∈ before, earlier.member? "_id" ≠ some (.text id)

theorem find?_hasId_eq_some_iff {documents : List Json} {id : String} {found : Json} :
    documents.find? (hasId id) = some found ↔ IsFirstWithId documents id found := by
  rw [List.find?_eq_some_iff_append, hasId_iff, IsFirstWithId]
  simp only [Bool.not_eq_eq_eq_not, Bool.not_true, ← Bool.not_eq_true, hasId_iff]
  constructor
  · intro h
    obtain ⟨hid, before, after, hsplit, hbefore⟩ := h
    exact ⟨before, after, hsplit, hid, hbefore⟩
  · intro h
    obtain ⟨before, after, hsplit, hid, hbefore⟩ := h
    exact ⟨hid, before, after, hsplit, hbefore⟩

/-- An id that some document has is found. -/
theorem exists_isFirstWithId {documents : List Json} {document : Json} {id : String}
    (hmem : document ∈ documents) (hid : hasId id document) :
    ∃ found, IsFirstWithId documents id found := by
  obtain ⟨found, hfound⟩ := Option.isSome_iff_exists.mp
    (List.find?_isSome.mpr ⟨document, hmem, hid⟩)
  exact ⟨found, find?_hasId_eq_some_iff.mp hfound⟩

theorem IsFirstWithId.unique {documents : List Json} {id : String} {first second : Json}
    (hfirst : IsFirstWithId documents id first) (hsecond : IsFirstWithId documents id second) :
    first = second :=
  Option.some.inj
    ((find?_hasId_eq_some_iff.mpr hfirst).symm.trans (find?_hasId_eq_some_iff.mpr hsecond))

end PackFolder

/-! ## Matched items -/

/-- The document that a matched item gets: a class has its levels and subclass entered. -/
def Item.entered (item : Item) (document : Json) : Json :=
  match item.kind with
  | .classLevels => withClassLevels document item.levels item.subclass
  | .spell => document

namespace Session

theorem firstReading?_of_perform_index {s : Session} (hs : s.Sound) {pack : String}
    {rows : List PackRow} (hindex : (s.perform (.index pack)).1 = .ok rows) :
    ∃ documents, (s.perform (.index pack)).2.disk.firstReading? pack = some documents ∧
      rows = documents.filterMap PackRow.ofDocument? := by
  rw [perform, ask_index] at hindex ⊢
  obtain ⟨-, -, hread⟩ := packDocuments_spec hs pack
  cases hresult : (s.packDocuments pack).1 with
  | error failure => simp [hresult, indexAnswer] at hindex
  | ok documents =>
      rw [hresult, indexAnswer, Except.ok.injEq] at hindex
      exact ⟨documents, hread documents hresult, hindex.symm⟩

/-- In a session, a row of a pack leads to a document: it is what looking up the row's id gives, and
an item that is matched with the row gets it. -/
structure LeadsTo (s : Session) (pack : String) (row : PackRow) (found : Json) : Prop where
  entry : (s.perform (.entry pack row.id)).1 = .ok (some found)
  matched : ∀ item, s.catalog.packs.pack item.kind = pack →
    (s.catalog.findFirst item.kind fun row => isFuzzyMatch row.name item.name) = some row →
    (s.perform (.matchItem item)).1 = .ok (some ⟨row, item.entered found⟩)

theorem Sound.leadsTo {s : Session} (hs : s.Sound) {pack : String} {row : PackRow}
    {documents : List Json} {found : Json}
    (hread : s.disk.firstReading? pack = some documents)
    (hfound : documents.find? (PackFolder.hasId row.id) = some found) :
    s.LeadsTo pack row found where
  entry := by rw [perform_entry_of_read hs hread, hfound]
  matched := by
    intro item hpack hitem
    have hentry : s.ask (s.catalog.fetch compendium item.kind row.id) = (.ok (some found), s) := by
      rw [Catalog.fetch, hpack, ask_entry, packDocuments_of_read hs hread, entryAnswer, hfound]
    rw [perform, Catalog.matchItem, hitem]
    simp only [ask_bind, hentry]
    rfl

/-- Every row that was read from an object tells the id, the name and the image of that object, and
it leads to the first document of the pack with this id, whatever has been done since the pack was
read.  That is the object itself unless an earlier document has the same id. -/
theorem rows_lead_to_documents (packs : PackNames) (files : Directory)
    (operations : List Operation) :
    let s := (start packs files).after operations
    ∀ pack rows, (s.perform (.index pack)).1 = .ok rows →
      ∃ documents, (s.perform (.index pack)).2.disk.firstReading? pack = some documents ∧
        rows = documents.filterMap PackRow.ofDocument? ∧
        ∀ before document after row, documents = before ++ document :: after →
          document.isObject → PackRow.ofDocument? document = some row →
            row.Tells document ∧
              ∃ found, PackFolder.IsFirstWithId documents row.id found ∧
                ((∀ earlier ∈ before, earlier.member? "_id" ≠ some (.text row.id)) →
                  found = document) ∧
                ∀ later, ((s.perform (.index pack)).2.after later).LeadsTo pack row found := by
  intro s pack rows hindex
  have hs : s.Sound := sound_after_start packs files operations
  obtain ⟨documents, hread, hrows⟩ := firstReading?_of_perform_index hs hindex
  refine ⟨documents, hread, hrows, fun before document after row hsplit hobject hrow => ?_⟩
  have htells : row.Tells document := PackRow.tells_of_ofDocument? hobject hrow
  have hmem : document ∈ documents := by simp [hsplit]
  obtain ⟨found, hfound⟩ :=
    PackFolder.exists_isFirstWithId hmem (PackFolder.hasId_iff.mpr htells.id)
  refine ⟨htells, found, hfound, fun hbefore => ?_, fun later => ?_⟩
  · exact hfound.unique ⟨before, after, hsplit, htells.id, hbefore⟩
  · obtain ⟨hnext, -⟩ := perform_spec hs (.index pack)
    obtain ⟨ht, hlater⟩ := after_spec later hnext
    exact ht.leadsTo (hlater.firstReading hread) (PackFolder.find?_hasId_eq_some_iff.mpr hfound)

/-- A pack that is read for the first time answers from its file. -/
theorem perform_index_start (packs : PackNames) {files : Directory} {pack : String}
    {documents : List Json} (hname : PackFolder.isPackName pack)
    (hfile : PackFolder.documentsOf (files (PackFolder.fileName pack)) = .ok documents) :
    ((start packs files).perform (.index pack)).1 =
        .ok (documents.filterMap PackRow.ofDocument?) ∧
      ((start packs files).perform (.index pack)).2.disk.firstReading? pack =
        some documents := by
  have hs : (start packs files).Sound := sound_start packs files
  have hunread : (start packs files).disk.firstReading? pack = none := rfl
  rw [perform_index_of_unread hs hname hunread, firstReading?_reread, hunread, if_pos rfl]
  have hcontent :
      PackFolder.documentsOf ((start packs files).disk.files (PackFolder.fileName pack)) =
        .ok documents := hfile
  rw [hcontent]
  exact ⟨rfl, rfl⟩

/-- The second of two spells is found under its own id. -/
theorem rows_lead_to_documents_fireball :
    let shield : Json := .object [("_id", .text "s1"), ("name", .text "Shield")]
    let fireball : Json :=
      .object [("_id", .text "s2"), ("name", .text "Fireball"), ("img", .text "fire.png")]
    let files : Directory := fun _ => .ok
      "[\x7b\"_id\":\"s1\",\"name\":\"Shield\"\x7d,
        \x7b\"_id\":\"s2\",\"name\":\"Fireball\",\"img\":\"fire.png\"\x7d]"
    let s := start .standard files
    let t := (s.perform (.index "dnd5e.spells")).2
    (s.perform (.index "dnd5e.spells")).1 =
        .ok [⟨"s1", "Shield", none⟩, ⟨"s2", "Fireball", some "fire.png"⟩] ∧
      t.disk.firstReading? "dnd5e.spells" = some [shield, fireball] ∧
      (t.perform (.entry "dnd5e.spells" "s2")).1 = .ok (some fireball) := by
  intro shield fireball files
  dsimp only
  have hname : PackFolder.isPackName "dnd5e.spells" := by decide
  have hfile : PackFolder.documentsOf (files (PackFolder.fileName "dnd5e.spells")) =
      .ok [shield, fireball] := by cbv
  obtain ⟨hindex, hread⟩ := perform_index_start .standard hname hfile
  have hall := rows_lead_to_documents .standard files []
  simp only [after] at hall
  obtain ⟨documents, hdocuments, -, hrows⟩ := hall "dnd5e.spells" _ hindex
  have hsame : documents = [shield, fireball] := Option.some.inj (hdocuments.symm.trans hread)
  obtain ⟨-, found, -, hfirst, hlater⟩ :=
    hrows [shield] fireball [] ⟨"s2", "Fireball", some "fire.png"⟩ hsame rfl rfl
  have hfound : found = fireball := hfirst (by simp [shield, Json.member?, Keyed.get?])
  have hfetched := (hlater []).entry
  rw [hfound] at hfetched
  refine ⟨hindex.trans ?_, hread, hfetched⟩
  simp [shield, fireball, PackRow.ofDocument?, Keyed.get?, optionalText?]

/-- A row does not always lead to the document that it was read from.  A row in the form of a list
leads to none, since only objects are looked up, and of two objects with one id the second is never
found. -/
theorem rows_can_lead_elsewhere :
    let shield : Json := .object [("_id", .text "s1"), ("name", .text "Shield")]
    let fireball : Json := .object [("_id", .text "s1"), ("name", .text "Fireball")]
    let files : Directory := fun _ => .ok
      "[[\"s0\",\"Light\"],\x7b\"_id\":\"s1\",\"name\":\"Shield\"\x7d,
        \x7b\"_id\":\"s1\",\"name\":\"Fireball\"\x7d]"
    let s := start .standard files
    let t := (s.perform (.index "dnd5e.spells")).2
    (s.perform (.index "dnd5e.spells")).1 =
        .ok [⟨"s0", "Light", none⟩, ⟨"s1", "Shield", none⟩, ⟨"s1", "Fireball", none⟩] ∧
      t.disk.firstReading? "dnd5e.spells" =
        some [.list [.text "s0", .text "Light"], shield, fireball] ∧
      (t.perform (.entry "dnd5e.spells" "s0")).1 = .ok none ∧
      (t.perform (.entry "dnd5e.spells" "s1")).1 = .ok (some shield) ∧
      ¬PackRow.Tells ⟨"s1", "Fireball", none⟩ shield := by
  intro shield fireball files
  dsimp only
  have hname : PackFolder.isPackName "dnd5e.spells" := by decide
  have hfile : PackFolder.documentsOf (files (PackFolder.fileName "dnd5e.spells")) =
      .ok [.list [.text "s0", .text "Light"], shield, fireball] := by cbv
  obtain ⟨hindex, hread⟩ := perform_index_start .standard hname hfile
  have ht := (perform_spec (sound_start .standard files) (.index "dnd5e.spells")).1
  refine ⟨hindex.trans ?_, hread, ?_, ?_, fun htells => ?_⟩
  · simp [shield, fireball, PackRow.ofDocument?, Keyed.get?, optionalText?]
  · rw [perform_entry_of_read ht hread]
    simp [shield, fireball, PackFolder.hasId, Json.member?, Keyed.get?, Json.text?]
  · rw [perform_entry_of_read ht hread]
    simp [shield, PackFolder.hasId, Json.member?, Keyed.get?, Json.text?]
  · simpa [shield, Json.member?, Keyed.get?] using htells.name

end Session

end SheetImport
