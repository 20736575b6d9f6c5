import SheetImport.Json.Reader
import SheetImport.Proofs.Json.Lexing

/-!
# Reading printed documents

The text of a document, compact or pretty, is always a well-formed document.  Read within a limit it
gives the document itself if its numbers are read as themselves and its objects have no name twice,
and nothing if its containers nest deeper than the limit.
-/

namespace SheetImport.Json

mutual

/-- The raw form of a document's own text. -/
def raw : Json → Raw
  | .null => .null
  | .boolean b => .boolean b
  | .number n => .number n.reread
  | .text s => .text (some s)
  | .list items => .list (rawItems items)
  | .object members => .object (rawMembers members)

def rawItems : List Json → List Raw
  | [] => []
  | item :: rest => raw item :: rawItems rest

def rawMembers : List (String × Json) → List (Option String × Raw)
  | [] => []
  | (key, value) :: rest => (some key, raw value) :: rawMembers rest

end

theorem rawMembers_eq_map (members : List (String × Json)) :
    rawMembers members = members.map fun member => (some member.1, raw member.2) := by
  induction members with
  | nil => rfl
  | cons member rest ih => exact congrArg (List.cons _) ih

/-! ## From tokens to the raw form -/

namespace Raw

/-- The raw document of tokens that go on from a place. -/
def run (place : Place) (tokens : List Token) : Option Raw :=
  (tokens.foldlM step place).bind finish

theorem run_cons (place : Place) (token : Token) (tokens : List Token) :
    run place (token :: tokens) = (step place token).bind fun next => run next tokens := by
  rw [run, List.foldlM_cons]
  exact Option.bind_assoc (step place token) (fun next => tokens.foldlM step next) finish

mutual

/-- Where a value may come, the tokens of a document lead to its raw form. -/
theorem run_tokens : ∀ (j : Json) (frames : List Frame) (mayClose : Bool) (rest : List Token),
    run ⟨frames, .value mayClose⟩ (j.tokens ++ rest) = run ⟨frames, .after j.raw⟩ rest
  | .null, _, _, _ => rfl
  | .boolean _, _, _, _ => rfl
  | .number _, _, _, _ => rfl
  | .text _, _, _, _ => rfl
  | .list [], _, _, _ => rfl
  | .list (item :: more), frames, _, rest => by
      have hitems := run_itemTokens (item :: more) (by simp) [] frames true rest
      rw [tokens, List.cons_append, List.append_assoc, run_cons]
      exact hitems
  | .object [], _, _, _ => rfl
  | .object (member :: more), frames, _, rest => by
      have hmembers := run_memberTokens (member :: more) (by simp) [] frames true rest
      rw [tokens, List.cons_append, List.append_assoc, run_cons]
      exact hmembers

/-- Inside a list, the tokens of further items up to its end. -/
theorem run_itemTokens : ∀ (items : List Json), items ≠ [] → ∀ (read : List Raw)
    (frames : List Frame) (mayClose : Bool) (rest : List Token),
    run ⟨.list read :: frames, .value mayClose⟩
        ([Token.comma].intercalate (itemTokens items) ++ .closeList :: rest) =
      run ⟨frames, .after (.list (read.reverse ++ rawItems items))⟩ rest
  | [], hne, _, _, _, _ => absurd rfl hne
  | [item], _, read, frames, mayClose, rest => by
      rw [itemTokens, itemTokens, List.intercalate_singleton, run_tokens, run_cons, rawItems,
        rawItems]
      change run ⟨frames, .after (.list (item.raw :: read).reverse)⟩ rest = _
      rw [List.reverse_cons]
  | item :: next :: more, _, read, frames, mayClose, rest => by
      have hmore := run_itemTokens (next :: more) (by simp) (item.raw :: read) frames false rest
      rw [List.reverse_cons, List.append_assoc, List.singleton_append] at hmore
      rw [itemTokens, itemTokens, List.intercalate_cons_cons, List.append_assoc, List.append_assoc,
        run_tokens, List.singleton_append, run_cons, rawItems]
      exact hmore

/-- Inside an object, the tokens of further members up to its end. -/
theorem run_memberTokens : ∀ (members : List (String × Json)), members ≠ [] →
    ∀ (read : List (Option String × Raw)) (frames : List Frame) (mayClose : Bool)
      (rest : List Token),
    run ⟨frames, .key read mayClose⟩
        ([Token.comma].intercalate (memberTokens members) ++ .closeObject :: rest) =
      run ⟨frames, .after (.object (read.reverse ++ rawMembers members))⟩ rest
  | [], hne, _, _, _, _ => absurd rfl hne
  | [(key, value)], _, read, frames, mayClose, rest => by
      have hvalue := run_tokens value (.member read (some key) :: frames) false
        (.closeObject :: rest)
      rw [memberTokens, memberTokens, List.intercalate_singleton, rawMembers, rawMembers]
      calc
        run ⟨frames, .key read mayClose⟩
            (.text (some key) :: .colon :: value.tokens ++ .closeObject :: rest)
          = run ⟨.member read (some key) :: frames, .value false⟩
              (value.tokens ++ .closeObject :: rest) := rfl
        _ = run ⟨.member read (some key) :: frames, .after value.raw⟩ (.closeObject :: rest) :=
          hvalue
        _ = run ⟨frames, .after (.object ((some key, value.raw) :: read).reverse)⟩ rest := rfl
        _ = run ⟨frames, .after (.object (read.reverse ++ [(some key, value.raw)]))⟩ rest := by
          rw [List.reverse_cons]
  | (key, value) :: next :: more, _, read, frames, mayClose, rest => by
      have hvalue := run_tokens value (.member read (some key) :: frames) false
        (.comma :: ([Token.comma].intercalate (memberTokens (next :: more)) ++
          .closeObject :: rest))
      have hmore := run_memberTokens (next :: more) (by simp) ((some key, value.raw) :: read) frames
        false rest
      rw [List.reverse_cons, List.append_assoc, List.singleton_append] at hmore
      rw [memberTokens, memberTokens, List.intercalate_cons_cons, rawMembers]
      simp only [List.append_assoc, List.cons_append]
      calc
        run ⟨frames, .key read mayClose⟩ (.text (some key) :: .colon :: (value.tokens ++
            .comma :: ([Token.comma].intercalate (memberTokens (next :: more)) ++
              .closeObject :: rest)))
          = run ⟨.member read (some key) :: frames, .after value.raw⟩
              (.comma :: ([Token.comma].intercalate (memberTokens (next :: more)) ++
                .closeObject :: rest)) := hvalue
        _ = run ⟨frames, .key ((some key, value.raw) :: read) false⟩
              ([Token.comma].intercalate (memberTokens (next :: more)) ++
                .closeObject :: rest) := rfl
        _ = run ⟨frames, .after (.object (read.reverse ++
              (some key, value.raw) :: rawMembers (next :: more)))⟩ rest := hmore

end

theorem ofTokens?_tokens (j : Json) : ofTokens? j.tokens = some j.raw := by
  have hrun := run_tokens j [] false []
  rw [List.append_nil] at hrun
  exact hrun

/-- The compact text of a document is its raw form. -/
theorem ofText?_compact (j : Json) : ofText? j.compact = some j.raw := by
  have htokens := tokens?_of_readsApart (Lexer.readsApart_compactText j)
  rw [ofText?, compact, String.toList_ofList, htokens, Option.bind_some, ofTokens?_tokens]

/-- The pretty text of a document has the same raw form. -/
theorem ofText?_pretty (j : Json) : ofText? j.pretty = some j.raw := by
  have htokens := tokens?_of_readsApart (Lexer.readsApart_prettyText 0 j)
  rw [ofText?, pretty, String.toList_ofList, htokens, Option.bind_some, ofTokens?_tokens]

end Raw

/-! ## How deep containers nest -/

mutual

/-- How many containers stand around the innermost value, the outermost one included. -/
def depth : Json → Nat
  | .null => 0
  | .boolean _ => 0
  | .number _ => 0
  | .text _ => 0
  | .list items => itemsDepth items + 1
  | .object members => membersDepth members + 1

def itemsDepth : List Json → Nat
  | [] => 0
  | item :: rest => max (depth item) (itemsDepth rest)

def membersDepth : List (String × Json) → Nat
  | [] => 0
  | (_, value) :: rest => max (depth value) (membersDepth rest)

end

mutual

/-- Whether a document can be told from its text: numbers are read as themselves, and no object has
a name twice. -/
def IsExact : Json → Prop
  | .null => True
  | .boolean _ => True
  | .number n => n.reread = some n
  | .text _ => True
  | .list items => ItemsExact items
  | .object members => (Keyed.keys members).Nodup ∧ MembersExact members

def ItemsExact : List Json → Prop
  | [] => True
  | item :: rest => IsExact item ∧ ItemsExact rest

def MembersExact : List (String × Json) → Prop
  | [] => True
  | (_, value) :: rest => IsExact value ∧ MembersExact rest

end

/-! ## From the raw form to the document -/

mutual

theorem ofRaw?_raw : ∀ (limit : Nat) (j : Json), j.IsExact → j.depth ≤ limit →
    ofRaw? limit j.raw = some j
  | _, .null, _, _ => rfl
  | _, .boolean _, _, _ => rfl
  | _, .number n, hexact, _ => by
      have hreread : n.reread = some n := hexact
      rw [raw, ofRaw?, hreread, Option.map_some]
  | _, .text _, _, _ => rfl
  | 0, .list items, _, hdepth => by cases hdepth
  | limit + 1, .list items, hexact, hdepth => by
      have hitems := itemsOfRaw?_rawItems limit items hexact (Nat.le_of_succ_le_succ hdepth)
      rw [raw, ofRaw?, hitems, Option.map_some]
  | 0, .object members, _, hdepth => by cases hdepth
  | limit + 1, .object members, hexact, hdepth => by
      have hmembers := membersOfRaw?_rawMembers limit members hexact.2
        (Nat.le_of_succ_le_succ hdepth)
      rw [raw, ofRaw?, hmembers, Option.map_some, Keyed.ofPairs_eq_self hexact.1]

theorem itemsOfRaw?_rawItems : ∀ (limit : Nat) (items : List Json), ItemsExact items →
    itemsDepth items ≤ limit → itemsOfRaw? limit (rawItems items) = some items
  | _, [], _, _ => rfl
  | limit, item :: rest, hexact, hdepth => by
      have hitem := ofRaw?_raw limit item hexact.1 (Nat.le_trans (Nat.le_max_left _ _) hdepth)
      have hrest := itemsOfRaw?_rawItems limit rest hexact.2
        (Nat.le_trans (Nat.le_max_right _ _) hdepth)
      simp only [rawItems, itemsOfRaw?, hitem, hrest]

theorem membersOfRaw?_rawMembers : ∀ (limit : Nat) (members : List (String × Json)),
    MembersExact members → membersDepth members ≤ limit →
      membersOfRaw? limit (rawMembers members) = some members
  | _, [], _, _ => rfl
  | limit, (key, value) :: rest, hexact, hdepth => by
      have hvalue := ofRaw?_raw limit value hexact.1 (Nat.le_trans (Nat.le_max_left _ _) hdepth)
      have hrest := membersOfRaw?_rawMembers limit rest hexact.2
        (Nat.le_trans (Nat.le_max_right _ _) hdepth)
      simp only [rawMembers, membersOfRaw?, hvalue, hrest]

end

mutual

theorem ofRaw?_raw_eq_none : ∀ (limit : Nat) (j : Json), limit < j.depth →
    ofRaw? limit j.raw = none
  | _, .null, hdeep => by cases hdeep
  | _, .boolean _, hdeep => by cases hdeep
  | _, .number _, hdeep => by cases hdeep
  | _, .text _, hdeep => by cases hdeep
  | 0, .list items, _ => rfl
  | limit + 1, .list items, hdeep => by
      have hitems := itemsOfRaw?_eq_none limit items (Nat.lt_of_succ_lt_succ hdeep)
      rw [raw, ofRaw?, hitems, Option.map_none]
  | 0, .object members, _ => rfl
  | limit + 1, .object members, hdeep => by
      have hmembers := membersOfRaw?_eq_none limit members (Nat.lt_of_succ_lt_succ hdeep)
      rw [raw, ofRaw?, hmembers, Option.map_none]

theorem itemsOfRaw?_eq_none : ∀ (limit : Nat) (items : List Json), limit < itemsDepth items →
    itemsOfRaw? limit (rawItems items) = none
  | _, [], hdeep => by cases hdeep
  | limit, item :: rest, hdeep => by
      have heither : limit < item.depth ∨ limit < itemsDepth rest := by
        rw [itemsDepth] at hdeep
        omega
      rw [rawItems, itemsOfRaw?]
      rcases heither with hitem | hrest
      · rw [ofRaw?_raw_eq_none limit item hitem]
      · rw [itemsOfRaw?_eq_none limit rest hrest]
        cases ofRaw? limit item.raw <;> rfl

theorem membersOfRaw?_eq_none : ∀ (limit : Nat) (members : List (String × Json)),
    limit < membersDepth members → membersOfRaw? limit (rawMembers members) = none
  | _, [], hdeep => by cases hdeep
  | limit, (key, value) :: rest, hdeep => by
      have heither : limit < value.depth ∨ limit < membersDepth rest := by
        rw [membersDepth] at hdeep
        omega
      unfold rawMembers membersOfRaw?
      rcases heither with hvalue | hrest
      · rw [ofRaw?_raw_eq_none limit value hvalue]
      · rw [membersOfRaw?_eq_none limit rest hrest]
        cases ofRaw? limit value.raw <;> rfl

end

/-! ## From text to the document -/

/-- What is read from a text depends on the raw form of the text alone. -/
theorem parseWithin_of_ofText? {s : String} {j : Json} (h : Raw.ofText? s = some j.raw)
    (limit : Nat) : parseWithin limit s = ofRaw? limit j.raw := by
  rw [parseWithin, h, Option.bind_some]

theorem parse?_compact {j : Json} (hexact : j.IsExact) (hdepth : j.depth ≤ nestingLimit) :
    parse? j.compact = some j := by
  rw [parse?, parseWithin_of_ofText? (Raw.ofText?_compact j)]
  exact ofRaw?_raw nestingLimit j hexact hdepth

theorem parse?_compact_eq_none {j : Json} (hdeep : nestingLimit < j.depth) :
    parse? j.compact = none := by
  rw [parse?, parseWithin_of_ofText? (Raw.ofText?_compact j)]
  exact ofRaw?_raw_eq_none nestingLimit j hdeep

theorem parse?_pretty {j : Json} (hexact : j.IsExact) (hdepth : j.depth ≤ nestingLimit) :
    parse? j.pretty = some j := by
  rw [parse?, parseWithin_of_ofText? (Raw.ofText?_pretty j)]
  exact ofRaw?_raw nestingLimit j hexact hdepth

end SheetImport.Json
