import SheetImport.Proofs.Json.Reading
import SheetImport.Value.Document

/-!
# Values as text and back

A value written directly and the document made of it have the same text.  Reading that text gives
the value back: although the kinds are tried in a fixed order, no kind takes what was written for a
later one.  Only floats are left out, since a float's text is read with a rounding of its own.  What
nests deeper than texts may is not read at all.
-/

namespace SheetImport.Value

/-! ## Values without floats -/

mutual

/-- Whether there is no float in a value, at any depth. -/
def isFloatFree : Value → Bool
  | .null => true
  | .boolean _ => true
  | .integer _ => true
  | .float _ => false
  | .text _ => true
  | .list items => itemsFloatFree items
  | .object members => membersFloatFree members

def itemsFloatFree : List Value → Bool
  | [] => true
  | item :: rest => isFloatFree item && itemsFloatFree rest

def membersFloatFree : List (String × Value) → Bool
  | [] => true
  | (_, value) :: rest => isFloatFree value && membersFloatFree rest

end

mutual

/-- Whether no object in a value has a name twice, at any depth.  An object whose members are entered
by name never has. -/
def hasDistinctNames : Value → Bool
  | .null => true
  | .boolean _ => true
  | .integer _ => true
  | .float _ => true
  | .text _ => true
  | .list items => itemsDistinct items
  | .object members => decide (Keyed.keys members).Nodup && membersDistinct members

def itemsDistinct : List Value → Bool
  | [] => true
  | item :: rest => hasDistinctNames item && itemsDistinct rest

def membersDistinct : List (String × Value) → Bool
  | [] => true
  | (_, value) :: rest => hasDistinctNames value && membersDistinct rest

end

mutual

/-- How many lists and objects stand around the innermost value, the outermost one included. -/
def depth : Value → Nat
  | .null => 0
  | .boolean _ => 0
  | .integer _ => 0
  | .float _ => 0
  | .text _ => 0
  | .list items => itemsDepth items + 1
  | .object members => membersDepth members + 1

def itemsDepth : List Value → Nat
  | [] => 0
  | item :: rest => max (depth item) (itemsDepth rest)

def membersDepth : List (String × Value) → Nat
  | [] => 0
  | (_, value) :: rest => max (depth value) (membersDepth rest)

end

/-! ## One text for a value and its document -/

theorem floatDocumentText_eq (x : Float) :
    floatDocumentText x = Json.compactText (toJson (.float x)) := by
  rw [floatDocumentText, toJson, Json.Number.ofFloat?]
  by_cases hfinite : x.isFinite = true
  · rw [if_pos hfinite, dif_pos hfinite]
    rfl
  · rw [if_neg hfinite, dif_neg hfinite]
    rfl

mutual

theorem serialText_eq : ∀ value : Value, value.serialText = Json.compactText value.toJson
  | .null => rfl
  | .boolean _ => rfl
  | .integer _ => rfl
  | .float x => floatDocumentText_eq x
  | .text _ => rfl
  | .list items => by rw [serialText, toJson, Json.compactText, serialItems_eq items]
  | .object members => by rw [serialText, toJson, Json.compactText, serialMembers_eq members]

theorem serialItems_eq :
    ∀ items : List Value, serialItems items = Json.compactItems (toItems items)
  | [] => rfl
  | item :: rest => by
      rw [serialItems, toItems, Json.compactItems, serialText_eq item, serialItems_eq rest]

theorem serialMembers_eq : ∀ members : List (String × Value),
    serialMembers members = Json.compactMembers (toMembers members)
  | [] => rfl
  | (key, value) :: rest => by
      rw [serialMembers, toMembers, Json.compactMembers, serialText_eq value, serialMembers_eq rest]

end

theorem serialize_eq_compact (value : Value) : value.serialize = value.toJson.compact :=
  congrArg String.ofList (serialText_eq value)

/-! ## The document of a value -/

mutual

theorem depth_toJson : ∀ value : Value, value.toJson.depth = value.depth
  | .null => rfl
  | .boolean _ => rfl
  | .integer _ => rfl
  | .float x => by
      rw [toJson]
      cases Json.Number.ofFloat? x <;> rfl
  | .text _ => rfl
  | .list items => by rw [toJson, Json.depth, depth, itemsDepth_toItems items]
  | .object members => by rw [toJson, Json.depth, depth, membersDepth_toMembers members]

theorem itemsDepth_toItems :
    ∀ items : List Value, Json.itemsDepth (toItems items) = itemsDepth items
  | [] => rfl
  | item :: rest => by
      rw [toItems, Json.itemsDepth, itemsDepth, depth_toJson item, itemsDepth_toItems rest]

theorem membersDepth_toMembers :
    ∀ members : List (String × Value), Json.membersDepth (toMembers members) = membersDepth members
  | [] => rfl
  | (_, value) :: rest => by
      rw [toMembers, Json.membersDepth, membersDepth, depth_toJson value,
        membersDepth_toMembers rest]

end

theorem keys_toMembers (members : List (String × Value)) :
    Keyed.keys (toMembers members) = Keyed.keys members := by
  induction members with
  | nil => rfl
  | cons member rest ih => exact congrArg (List.cons member.1) ih

mutual

/-- Without floats, the document of a value can be told from its text. -/
theorem isExact_toJson :
    ∀ value : Value, value.isFloatFree → value.hasDistinctNames → value.toJson.IsExact
  | .null, _, _ => trivial
  | .boolean _, _, _ => trivial
  | .integer n, _, _ => Json.Number.reread_whole n.toInt _
  | .text _, _, _ => trivial
  | .list items, hfloats, hnames => itemsExact_toItems items hfloats hnames
  | .object members, hfloats, hnames => by
      rw [hasDistinctNames, Bool.and_eq_true, decide_eq_true_eq] at hnames
      refine ⟨?_, membersExact_toMembers members hfloats hnames.2⟩
      rw [keys_toMembers]
      exact hnames.1

theorem itemsExact_toItems : ∀ items : List Value, itemsFloatFree items → itemsDistinct items →
    Json.ItemsExact (toItems items)
  | [], _, _ => trivial
  | item :: rest, hfloats, hnames => by
      rw [itemsFloatFree, Bool.and_eq_true] at hfloats
      rw [itemsDistinct, Bool.and_eq_true] at hnames
      exact ⟨isExact_toJson item hfloats.1 hnames.1, itemsExact_toItems rest hfloats.2 hnames.2⟩

theorem membersExact_toMembers : ∀ members : List (String × Value),
    membersFloatFree members → membersDistinct members → Json.MembersExact (toMembers members)
  | [], _, _ => trivial
  | (_, value) :: rest, hfloats, hnames => by
      rw [membersFloatFree, Bool.and_eq_true] at hfloats
      rw [membersDistinct, Bool.and_eq_true] at hnames
      exact ⟨isExact_toJson value hfloats.1 hnames.1,
        membersExact_toMembers rest hfloats.2 hnames.2⟩

end

/-! ## The value of a document -/

theorem ofNumber_integerNumber (n : Int64) : ofNumber (integerNumber n) = .integer n := by
  have hsmall : n.toInt < 9223372036854775808 := n.toInt_lt
  rw [integerNumber, ofNumber, if_pos hsmall, Int64.ofInt_toInt]

mutual

/-- Without floats, turning a value into a document loses nothing. -/
theorem ofJson_toJson : ∀ value : Value, value.isFloatFree → ofJson value.toJson = value
  | .null, _ => rfl
  | .boolean _, _ => rfl
  | .integer n, _ => ofNumber_integerNumber n
  | .text _, _ => rfl
  | .list items, hfloats => by rw [toJson, ofJson, ofItems_toItems items hfloats]
  | .object members, hfloats => by rw [toJson, ofJson, ofMembers_toMembers members hfloats]

theorem ofItems_toItems :
    ∀ items : List Value, itemsFloatFree items → ofItems (toItems items) = items
  | [], _ => rfl
  | item :: rest, hfloats => by
      rw [itemsFloatFree, Bool.and_eq_true] at hfloats
      rw [toItems, ofItems, ofJson_toJson item hfloats.1, ofItems_toItems rest hfloats.2]

theorem ofMembers_toMembers :
    ∀ members : List (String × Value), membersFloatFree members →
      ofMembers (toMembers members) = members
  | [], _ => rfl
  | (key, value) :: rest, hfloats => by
      rw [membersFloatFree, Bool.and_eq_true] at hfloats
      rw [toMembers, ofMembers, ofJson_toJson value hfloats.1, ofMembers_toMembers rest hfloats.2]

end

/-! ## Reading by kinds -/

/-- A number is an integer if it can be one. -/
theorem readScalar?_number (n : Json.Number) : readScalar? (.number n) = some (ofNumber n) := by
  cases n with
  | whole n fits =>
      rw [ofNumber]
      by_cases hsmall : n < 9223372036854775808 <;>
        simp [readScalar?, List.findSome?_cons, readNull?, readBoolean?, readInteger?, readFloat?,
          hsmall]
  | float x finite => rfl

mutual

/-- Trying one kind after the other gives the value that a document was made of. -/
theorem read?_eq : ∀ document : Json, read? document = some (ofJson document)
  | .null => rfl
  | .boolean _ => rfl
  | .number n => congrArg (fun scalar => scalar.or none) (readScalar?_number n)
  | .text _ => rfl
  | .list items => by
      have hitems := readItems?_eq items
      rw [read?, ofJson, hitems]
      rfl
  | .object members => by
      have hmembers := readMembers?_eq members
      rw [read?, ofJson, hmembers]
      rfl

theorem readItems?_eq : ∀ items : List Json, readItems? items = some (ofItems items)
  | [] => rfl
  | item :: rest => by rw [readItems?, ofItems, read?_eq item, readItems?_eq rest]

theorem readMembers?_eq :
    ∀ members : List (String × Json), readMembers? members = some (ofMembers members)
  | [] => rfl
  | (key, value) :: rest => by rw [readMembers?, ofMembers, read?_eq value, readMembers?_eq rest]

end

/-- A value has the text of its document.  Without floats it is read back from this text as it was,
up to the depth to which texts are read; a value that nests deeper is not read at all. -/
theorem serialize_reads_back (value : Value) :
    value.serialize = value.toJson.compact ∧
      (value.isFloatFree → value.hasDistinctNames → value.depth ≤ 127 →
        parse? value.serialize = some value) ∧
      (128 ≤ value.depth → parse? value.serialize = none) := by
  refine ⟨serialize_eq_compact value, ?_, ?_⟩
  · intro hfloats hnames hdepth
    have hexact := isExact_toJson value hfloats hnames
    rw [← depth_toJson] at hdepth
    calc
      parse? value.serialize = (Json.parse? value.toJson.compact).bind read? := by
        rw [parse?, serialize_eq_compact]
      _ = read? value.toJson := by rw [Json.parse?_compact hexact hdepth, Option.bind_some]
      _ = some value := by rw [read?_eq, ofJson_toJson value hfloats]
  · intro hdeep
    rw [← depth_toJson] at hdeep
    rw [parse?, serialize_eq_compact, Json.parse?_compact_eq_none hdeep, Option.bind_none]

/-- Some kinds of values that could be taken for one another. -/
def mixedValue : Value :=
  .object [
    ("zero", .integer 0), ("least", .integer Int64.minValue), ("null", .text "null"),
    ("empty", .list [.null, .list [], .object []]), ("escaped", .text "\"\\\n\x07"),
    ("", .boolean true)]

/-- Lists inside one another. -/
def nestedLists : Nat → Value
  | 0 => .null
  | count + 1 => .list [nestedLists count]

theorem depth_nestedLists (count : Nat) : (nestedLists count).depth = count := by
  induction count with
  | zero => rfl
  | succ count ih => rw [nestedLists, depth, itemsDepth, itemsDepth, ih, Nat.max_zero]

theorem serialize_reads_back_mixedValue :
    (mixedValue.isFloatFree ∧ mixedValue.hasDistinctNames ∧ mixedValue.depth ≤ 127 ∧
        parse? mixedValue.serialize = some mixedValue) ∧
      128 ≤ (nestedLists 128).depth ∧ parse? (nestedLists 128).serialize = none := by
  have hfloats : mixedValue.isFloatFree := by rfl
  have hnames : mixedValue.hasDistinctNames := by decide
  have hdepth : mixedValue.depth ≤ 127 := by decide
  have hdeep : 128 ≤ (nestedLists 128).depth := (depth_nestedLists 128).ge
  refine ⟨⟨hfloats, hnames, hdepth, ?_⟩, hdeep, ?_⟩
  · exact (serialize_reads_back mixedValue).2.1 hfloats hnames hdepth
  · exact (serialize_reads_back (nestedLists 128)).2.2 hdeep

end SheetImport.Value
