import SheetImport.Item
import SheetImport.Proofs.Json.Reading

/-!
# The written forms of items

An item is read back from its own text, and from every other form it may be written in: the members
of its object in any order, without those that hold null, or the list of its parts.  What an object
says under a name is what its one member of that name holds.  A name that comes twice cannot be
read, so an object that repeats one of an item's names never gives an item.
-/

namespace SheetImport.Item

open Json (Raw)

/-! ## What an object says under a name -/

section Told

variable {α : Type} (read : Raw → Option α) (name : String)

/-- What members say under a name, which is nothing where the name is missing.  A name that comes
twice cannot be read. -/
def told? (members : List (Option String × Raw)) : Option (Option α) :=
  match members.filter fun member => member.1 = some name with
  | [] => some none
  | [member] => (read member.2).map some
  | _ => none

/-- What is known under a name after one more member. -/
def enterNamed (known : Option α) (member : Option String × Raw) : Option (Option α) :=
  if member.1 = some name then enter known (read member.2) else some known

variable {read name}

/-- What is known stays, unless the name comes again. -/
theorem foldlM_enterNamed_some (value : α) (members : List (Option String × Raw)) :
    members.foldlM (enterNamed read name) (some value) =
      match members.filter fun member => member.1 = some name with
      | [] => some (some value)
      | _ => none := by
  induction members with
  | nil => rfl
  | cons member rest ih =>
      rw [List.foldlM_cons, enterNamed]
      by_cases hname : member.1 = some name
      · rw [if_pos hname, List.filter_cons_of_pos (by simpa using hname)]
        rfl
      · rw [if_neg hname, List.filter_cons_of_neg (by simpa using hname)]
        exact ih

/-- Members that are entered one after the other leave what they say. -/
theorem foldlM_enterNamed (members : List (Option String × Raw)) :
    members.foldlM (enterNamed read name) none = told? read name members := by
  induction members with
  | nil => rfl
  | cons member rest ih =>
      rw [List.foldlM_cons, enterNamed, told?]
      by_cases hname : member.1 = some name
      · rw [if_pos hname, List.filter_cons_of_pos (by simpa using hname), enter]
        cases hread : read member.2 with
        | none => cases rest.filter fun other => other.1 = some name <;> simp [hread]
        | some value =>
            change rest.foldlM (enterNamed read name) (some value) = _
            rw [foldlM_enterNamed_some]
            cases rest.filter fun other => other.1 = some name <;> simp [hread]
      · rw [if_neg hname, List.filter_cons_of_neg (by simpa using hname)]
        exact ih

theorem told?_eq_none {members : List (Option String × Raw)}
    (h : 2 ≤ members.countP fun member => member.1 = some name) :
    told? read name members = none := by
  rw [List.countP_eq_length_filter] at h
  rw [told?]
  split
  case h_1 hmissing =>
    rw [hmissing] at h
    contradiction
  case h_2 hsingle =>
    rw [hsingle] at h
    contradiction
  case h_3 => rfl

/-- Members of a document, in any order and some of them left out, say under a name what the one of
that name holds. -/
theorem told?_rawMembers {members entries : List (String × Json)} {value : Json}
    {kept : String × Json → Bool} (horder : members.Perm (entries.filter kept))
    (honly : (entries.filter fun entry => entry.1 = name) = [(name, value)]) :
    told? read name (Json.rawMembers members) =
      if kept (name, value) then (read value.raw).map some else some none := by
  have hraw : (Json.rawMembers members).filter (fun member => member.1 = some name) =
      Json.rawMembers (members.filter fun member => member.1 = name) := by
    rw [Json.rawMembers_eq_map, Json.rawMembers_eq_map, List.filter_map]
    simp [Function.comp_def]
  have hnamed : (members.filter fun member => member.1 = name).Perm
      ([(name, value)].filter kept) := by
    rw [← honly, List.filter_comm]
    exact horder.filter _
  rw [told?, hraw]
  by_cases hkept : kept (name, value)
  · rw [List.filter_cons_of_pos hkept, List.filter_nil, List.perm_singleton] at hnamed
    rw [hnamed, if_pos hkept]
    rfl
  · rw [List.filter_cons_of_neg hkept, List.filter_nil, List.perm_nil] at hnamed
    rw [hnamed, if_neg hkept]
    rfl

end Told

/-! ## Reading an object -/

/-- A member is read by entering it under each of the four names. -/
theorem Draft.read?_eq_some_iff {draft next : Draft} {member : Option String × Raw} :
    draft.read? member = some next ↔
      member.1 ≠ none ∧
        enterNamed readName? "name" draft.name member = some next.name ∧
        enterNamed readKind? "kind" draft.kind member = some next.kind ∧
        enterNamed readDetail? "levels" draft.levels member = some next.levels ∧
        enterNamed readDetail? "subclass" draft.subclass member = some next.subclass := by
  obtain ⟨key, value⟩ := member
  obtain ⟨name, kind, levels, subclass⟩ := draft
  obtain ⟨newName, newKind, newLevels, newSubclass⟩ := next
  cases key with
  | none => simp [Draft.read?]
  | some key =>
      -- Of the four places at most one changes, and the others are passed on.
      by_cases hname : key = "name"
      · simp [Draft.read?, enterNamed, hname]
      by_cases hkind : key = "kind"
      · simp [Draft.read?, enterNamed, hkind, and_left_comm]
      by_cases hlevels : key = "levels"
      · simp [Draft.read?, enterNamed, hlevels, and_left_comm]
      by_cases hsubclass : key = "subclass"
      · simp [Draft.read?, enterNamed, hsubclass, and_assoc, and_comm]
      · simp [Draft.read?, enterNamed, hname, hkind, hlevels, hsubclass]

theorem foldlM_read?_eq_some_iff {draft last : Draft} {members : List (Option String × Raw)} :
    members.foldlM Draft.read? draft = some last ↔
      (∀ member ∈ members, member.1 ≠ none) ∧
        members.foldlM (enterNamed readName? "name") draft.name = some last.name ∧
        members.foldlM (enterNamed readKind? "kind") draft.kind = some last.kind ∧
        members.foldlM (enterNamed readDetail? "levels") draft.levels = some last.levels ∧
        members.foldlM (enterNamed readDetail? "subclass") draft.subclass = some last.subclass := by
  induction members generalizing draft with
  | nil =>
      obtain ⟨name, kind, levels, subclass⟩ := draft
      obtain ⟨lastName, lastKind, lastLevels, lastSubclass⟩ := last
      simp
  | cons member rest ih =>
      simp only [List.foldlM_cons, List.forall_mem_cons, Option.bind_eq_bind,
        Option.bind_eq_some_iff, Draft.read?_eq_some_iff, ih]
      constructor
      · intro h
        obtain ⟨next, ⟨hkey, hname, hkind, hlevels, hsubclass⟩, hkeys, hrest⟩ := h
        obtain ⟨hlastName, hlastKind, hlastLevels, hlastSubclass⟩ := hrest
        exact ⟨⟨hkey, hkeys⟩, ⟨_, hname, hlastName⟩, ⟨_, hkind, hlastKind⟩,
          ⟨_, hlevels, hlastLevels⟩, ⟨_, hsubclass, hlastSubclass⟩⟩
      · intro h
        obtain ⟨⟨hkey, hkeys⟩, ⟨name, hname, hlastName⟩, ⟨kind, hkind, hlastKind⟩,
          ⟨levels, hlevels, hlastLevels⟩, ⟨subclass, hsubclass, hlastSubclass⟩⟩ := h
        exact ⟨⟨name, kind, levels, subclass⟩, ⟨hkey, hname, hkind, hlevels, hsubclass⟩, hkeys,
          hlastName, hlastKind, hlastLevels, hlastSubclass⟩

/-- An object is read as an item if every name in it is a text and what it says under the four names
makes an item. -/
theorem ofRaw?_object_eq_some_iff {members : List (Option String × Raw)} {item : Item} :
    ofRaw? (.object members) = some item ↔
      (∀ member ∈ members, member.1 ≠ none) ∧
        ∃ draft : Draft,
          told? readName? "name" members = some draft.name ∧
          told? readKind? "kind" members = some draft.kind ∧
          told? readDetail? "levels" members = some draft.levels ∧
          told? readDetail? "subclass" members = some draft.subclass ∧
          draft.finish? = some item := by
  rw [ofRaw?, Option.bind_eq_some_iff]
  simp only [foldlM_read?_eq_some_iff, foldlM_enterNamed]
  constructor
  · intro h
    obtain ⟨draft, ⟨hkeys, hname, hkind, hlevels, hsubclass⟩, hitem⟩ := h
    exact ⟨hkeys, draft, hname, hkind, hlevels, hsubclass, hitem⟩
  · intro h
    obtain ⟨hkeys, draft, hname, hkind, hlevels, hsubclass, hitem⟩ := h
    exact ⟨draft, ⟨hkeys, hname, hkind, hlevels, hsubclass⟩, hitem⟩

/-! ## The forms of an item -/

/-- The members of an item's object. -/
def members (item : Item) : List (String × Json) := [
  ("name", .text item.name),
  ("kind", .text item.kind.word),
  ("levels", Json.ofText? item.levels),
  ("subclass", Json.ofText? item.subclass)]

theorem forall_mem_members {item : Item} {p : String × Json → Prop} :
    (∀ member ∈ item.members, p member) ↔
      p ("name", .text item.name) ∧ p ("kind", .text item.kind.word) ∧
        p ("levels", Json.ofText? item.levels) ∧ p ("subclass", Json.ofText? item.subclass) := by
  simp only [members, List.forall_mem_cons, List.not_mem_nil, false_implies, implies_true, and_true]

/-- Whether a document is a form of an item: an object with the item's members in any order, of
which those that hold null can be left out, or the list of what the members hold. -/
inductive IsWrittenAs (item : Item) : Json → Prop
  | object {members : List (String × Json)} (kept : String × Json → Bool)
      (hkept : ∀ member ∈ item.members, member.2 ≠ .null → kept member)
      (horder : members.Perm (item.members.filter kept)) : IsWrittenAs item (.object members)
  | list : IsWrittenAs item (.list (item.members.map Prod.snd))

theorem isWrittenAs_toJson (item : Item) : item.IsWrittenAs item.toJson := by
  refine .object (fun _ => true) (fun _ _ _ => rfl) ?_
  rw [List.filter_true]
  rfl

theorem readKind?_word (kind : ItemKind) : readKind? (.text (some kind.word)) = some kind := by
  cases kind <;> rfl

theorem readDetail?_ofText? (detail : Option String) :
    readDetail? (Json.ofText? detail).raw = some detail := by
  cases detail <;> rfl

/-- A detail that is left out is none. -/
theorem exists_told?_detail {members entries : List (String × Json)} {kept : String × Json → Bool}
    (horder : members.Perm (entries.filter kept)) {name : String} {detail : Option String}
    (honly : (entries.filter fun entry => entry.1 = name) = [(name, Json.ofText? detail)])
    (hkept : Json.ofText? detail ≠ .null → kept (name, Json.ofText? detail)) :
    ∃ answer, told? readDetail? name (Json.rawMembers members) = some answer ∧
      answer.getD none = detail := by
  rw [told?_rawMembers horder honly, readDetail?_ofText?]
  split
  case isTrue => exact ⟨some detail, rfl, rfl⟩
  case isFalse hleft =>
    refine ⟨none, rfl, ?_⟩
    cases detail with
    | none => rfl
    | some text => exact absurd (hkept (by simp [Json.ofText?])) hleft

theorem ofRaw?_object {item : Item} {members : List (String × Json)} {kept : String × Json → Bool}
    (hkept : ∀ member ∈ item.members, member.2 ≠ .null → kept member)
    (horder : members.Perm (item.members.filter kept)) :
    ofRaw? (Json.object members).raw = some item := by
  obtain ⟨hname, hkind, hkeptLevels, hkeptSubclass⟩ := forall_mem_members.mp hkept
  obtain ⟨levels, hlevels, hlevelsIs⟩ := exists_told?_detail horder rfl hkeptLevels
  obtain ⟨subclass, hsubclass, hsubclassIs⟩ := exists_told?_detail horder rfl hkeptSubclass
  have hkeys : ∀ member ∈ Json.rawMembers members, member.1 ≠ none := by
    rw [Json.rawMembers_eq_map]
    intro member hmember
    obtain ⟨_, -, rfl⟩ := List.mem_map.mp hmember
    exact Option.some_ne_none _
  rw [Json.raw, ofRaw?_object_eq_some_iff]
  refine ⟨hkeys, ⟨some item.name, some item.kind, levels, subclass⟩, ?_, ?_, hlevels, hsubclass, ?_⟩
  · rw [told?_rawMembers horder rfl, if_pos (hname nofun)]
    rfl
  · rw [told?_rawMembers horder rfl, if_pos (hkind nofun), Json.raw, readKind?_word]
    rfl
  · simp only [Draft.finish?, hlevelsIs, hsubclassIs]

theorem ofRaw?_list (item : Item) :
    ofRaw? (Json.list (item.members.map Prod.snd)).raw = some item := by
  change ofRaw? (.list [.text (some item.name), .text (some item.kind.word),
    (Json.ofText? item.levels).raw, (Json.ofText? item.subclass).raw]) = some item
  rw [ofRaw?, readDetail?_ofText?, readDetail?_ofText?, readKind?_word]
  obtain ⟨kind, name, levels, subclass⟩ := item
  cases levels <;> cases subclass <;> rfl

theorem ofRaw?_of_isWrittenAs {item : Item} {document : Json} (h : item.IsWrittenAs document) :
    ofRaw? document.raw = some item := by
  cases h with
  | object kept hkept horder => exact ofRaw?_object hkept horder
  | list => exact ofRaw?_list item

/-! ## From text to the item -/

theorem parse?_of_isWrittenAs {item : Item} {document : Json} (h : item.IsWrittenAs document)
    {text : String} (htext : Raw.ofText? text = some document.raw) : parse? text = some item := by
  rw [parse?, htext, Option.bind_some, ofRaw?_of_isWrittenAs h]

/-- The names of an item's members. -/
def memberNames : List String := ["name", "kind", "levels", "subclass"]

theorem ofRaw?_eq_none_of_repeated {members : List (Option String × Raw)} {name : String}
    (hname : name ∈ memberNames)
    (hrepeated : 2 ≤ members.countP fun member => member.1 = some name) :
    ofRaw? (.object members) = none := by
  rw [Option.eq_none_iff_forall_ne_some]
  intro item hitem
  obtain ⟨-, draft, htoldName, htoldKind, htoldLevels, htoldSubclass, -⟩ :=
    ofRaw?_object_eq_some_iff.mp hitem
  simp only [memberNames, List.mem_cons, List.not_mem_nil, or_false] at hname
  rcases hname with rfl | rfl | rfl | rfl
  · simp [told?_eq_none hrepeated] at htoldName
  · simp [told?_eq_none hrepeated] at htoldKind
  · simp [told?_eq_none hrepeated] at htoldLevels
  · simp [told?_eq_none hrepeated] at htoldSubclass

/-- An item is read from every text of each of its forms, its own text first of all.  A text of an
object in which one of the item's names is repeated is not read, whatever else is in it. -/
theorem written_forms_read_back (item : Item) :
    parse? item.toJson.compact = some item ∧
      (∀ document, item.IsWrittenAs document →
        parse? document.compact = some item ∧
          ∀ text, Raw.ofText? text = some document.raw → parse? text = some item) ∧
      ∀ text members, Raw.ofText? text = some (.object members) →
        ∀ name ∈ memberNames, 2 ≤ (members.countP fun member => member.1 = some name) →
          parse? text = none := by
  have hforms : ∀ document, item.IsWrittenAs document → parse? document.compact = some item :=
    fun document hdocument => parse?_of_isWrittenAs hdocument (Raw.ofText?_compact document)
  refine ⟨hforms _ (isWrittenAs_toJson item), fun document hdocument => ?_, ?_⟩
  · exact ⟨hforms document hdocument, fun text => parse?_of_isWrittenAs hdocument⟩
  · intro text members htext name hname hrepeated
    rw [parse?, htext, Option.bind_some, ofRaw?_eq_none_of_repeated hname hrepeated]

/-- A spell with a subclass, whose name is full of what has to be escaped. -/
def escapedSpell : Item := ⟨.spell, "Fire\"ball \\ Br\u00fbl\u00e9\n\x07", none, some "Evocation"⟩

theorem written_forms_read_back_escapedSpell :
    let reversed : Json := .object [
      ("subclass", .text "Evocation"), ("kind", .text "spell"), ("name", .text escapedSpell.name)]
    let repeated : Json := .object [
      ("levels", .null), ("name", .text "Light"), ("kind", .text "spell"), ("levels", .text "3")]
    escapedSpell.IsWrittenAs reversed ∧ parse? reversed.compact = some escapedSpell ∧
      Raw.ofText? reversed.pretty = some reversed.raw ∧
      parse? reversed.pretty = some escapedSpell ∧
      "levels" ∈ memberNames ∧ Raw.ofText? repeated.pretty = some repeated.raw ∧
      parse? repeated.pretty = none := by
  intro reversed repeated
  have hwritten : escapedSpell.IsWrittenAs reversed := by
    refine .object (fun member => member.1 ≠ "levels") ?_ ?_
    · rw [forall_mem_members]
      exact ⟨fun _ => rfl, fun _ => rfl, fun hgiven => absurd rfl hgiven, fun _ => rfl⟩
    · exact List.reverse_perm (escapedSpell.members.filter fun member => member.1 ≠ "levels")
  have hname : "levels" ∈ memberNames := by decide
  have htext := Raw.ofText?_pretty repeated
  obtain ⟨-, hforms, hrejected⟩ := written_forms_read_back escapedSpell
  refine ⟨hwritten, (hforms reversed hwritten).1, Raw.ofText?_pretty reversed, ?_, hname, htext, ?_⟩
  · exact (hforms reversed hwritten).2 reversed.pretty (Raw.ofText?_pretty reversed)
  · exact hrejected repeated.pretty _ htext "levels" hname (by decide)

end SheetImport.Item
