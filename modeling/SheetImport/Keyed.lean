/-!
# Values under names

A `Keyed` list holds values under names, in the order in which the names first came.  Giving a name
a new value keeps its place.  Sheets, records, documents and directories are all kept this way, so
that whatever is written out follows the order in which it was read in.
-/

namespace SheetImport

universe u

/-- Values under names, in the order of their names' first appearance. -/
abbrev Keyed (α : Type u) := List (String × α)

namespace Keyed

variable {α : Type u}

def keys (entries : Keyed α) : List String :=
  entries.map Prod.fst

/-- The value under the first entry of that name. -/
def get? : Keyed α → String → Option α
  | [], _ => none
  | (key, value) :: rest, name => if key = name then some value else get? rest name

/-- A known name keeps its place and takes the new value; a new name goes to the end. -/
def insert : Keyed α → String → α → Keyed α
  | [], name, value => [(name, value)]
  | (key, old) :: rest, name, value =>
      if key = name then (key, value) :: rest else (key, old) :: insert rest name value

def ofPairs (pairs : List (String × α)) : Keyed α :=
  pairs.foldl (fun entries pair => insert entries pair.1 pair.2) []

@[simp] theorem get?_nil (name : String) : get? ([] : Keyed α) name = none := rfl

theorem mem_of_get? {entries : Keyed α} {name : String} {value : α}
    (h : get? entries name = some value) : (name, value) ∈ entries := by
  induction entries with
  | nil => cases h
  | cons head rest ih =>
      obtain ⟨key, first⟩ := head
      rw [get?] at h
      split at h
      case isTrue hkey =>
        cases h
        rw [hkey]
        exact List.mem_cons_self
      case isFalse => exact List.mem_cons_of_mem _ (ih h)

theorem get?_eq_none_iff {entries : Keyed α} {name : String} :
    get? entries name = none ↔ name ∉ keys entries := by
  induction entries with
  | nil => simp [keys]
  | cons head rest ih =>
      obtain ⟨key, value⟩ := head
      by_cases hkey : key = name
      · simp [get?, keys, hkey]
      · rw [get?, if_neg hkey, ih, keys, keys, List.map_cons, List.mem_cons, not_or]
        exact (and_iff_right (Ne.symm hkey)).symm

theorem get?_insert (entries : Keyed α) (name other : String) (value : α) :
    get? (insert entries name value) other =
      if name = other then some value else get? entries other := by
  induction entries with
  | nil => rfl
  | cons head rest ih =>
      obtain ⟨key, old⟩ := head
      by_cases hkey : key = name
      · subst hkey
        by_cases hother : key = other <;> simp [insert, get?, hother]
      · by_cases hother : key = other
        · subst hother
          simp [insert, get?, hkey, Ne.symm hkey]
        · simp [insert, get?, hkey, hother, ih]

theorem mem_keys_insert (entries : Keyed α) (name other : String) (value : α) :
    other ∈ keys (insert entries name value) ↔ other = name ∨ other ∈ keys entries := by
  induction entries with
  | nil => simp [insert, keys]
  | cons head rest ih =>
      obtain ⟨key, old⟩ := head
      by_cases hkey : key = name
      · subst hkey
        simp [insert, keys]
      · simp only [keys] at ih
        simp only [insert, keys, hkey, if_false, List.map_cons, List.mem_cons, ih]
        constructor <;> (intro h; rcases h with h | h | h <;> simp [h])

theorem insert_of_not_mem (entries : Keyed α) {name : String} (value : α)
    (hnew : name ∉ keys entries) : insert entries name value = entries ++ [(name, value)] := by
  induction entries with
  | nil => rfl
  | cons head rest ih =>
      obtain ⟨key, old⟩ := head
      simp only [keys, List.map_cons, List.mem_cons, not_or] at hnew
      simp [insert, Ne.symm hnew.1, ih hnew.2]

theorem nodup_keys_insert {entries : Keyed α} (name : String) (value : α)
    (hdistinct : (keys entries).Nodup) : (keys (insert entries name value)).Nodup := by
  induction entries with
  | nil => simp [insert, keys]
  | cons head rest ih =>
      obtain ⟨key, old⟩ := head
      simp only [keys, List.map_cons, List.nodup_cons] at hdistinct
      by_cases hkey : key = name
      · simp only [insert, hkey, if_true, keys, List.map_cons, List.nodup_cons]
        exact hkey ▸ hdistinct
      · have hfresh : key ∉ keys (insert rest name value) := by
          rw [mem_keys_insert, not_or]
          exact ⟨hkey, hdistinct.1⟩
        simp only [insert, hkey, if_false]
        simp only [keys, List.map_cons, List.nodup_cons]
        exact ⟨hfresh, ih hdistinct.2⟩

/-- Entering pairs never gives one name two places. -/
theorem nodup_keys_ofPairs (pairs : List (String × α)) : (keys (ofPairs pairs)).Nodup := by
  have general : ∀ (rest : List (String × α)) (entries : Keyed α), (keys entries).Nodup →
      (keys (rest.foldl (fun entries pair => insert entries pair.1 pair.2) entries)).Nodup := by
    intro rest
    induction rest with
    | nil => exact fun _ h => h
    | cons pair rest ih => exact fun entries h => ih _ (nodup_keys_insert _ _ h)
  exact general pairs [] List.nodup_nil

theorem mem_of_mem_insert {entries : Keyed α} {name : String} {value : α} {entry : String × α}
    (h : entry ∈ insert entries name value) : entry ∈ entries ∨ entry = (name, value) := by
  induction entries with
  | nil => exact Or.inr (List.mem_singleton.mp h)
  | cons head rest ih =>
      obtain ⟨key, old⟩ := head
      rw [insert] at h
      split at h
      case isTrue hkey =>
        rcases List.mem_cons.mp h with hnew | hrest
        · exact Or.inr (hkey ▸ hnew)
        · exact Or.inl (List.mem_cons_of_mem _ hrest)
      case isFalse =>
        rcases List.mem_cons.mp h with hhead | hinserted
        · exact Or.inl (hhead ▸ List.mem_cons_self)
        · exact (ih hinserted).imp_left (List.mem_cons_of_mem _)

/-- No entry is made up: each one was entered under its own name. -/
theorem mem_of_mem_ofPairs {pairs : List (String × α)} {entry : String × α}
    (h : entry ∈ ofPairs pairs) : entry ∈ pairs := by
  have general : ∀ (rest : List (String × α)) (entries : Keyed α),
      entry ∈ rest.foldl (fun entries pair => insert entries pair.1 pair.2) entries →
        entry ∈ entries ∨ entry ∈ rest := by
    intro rest
    induction rest with
    | nil => exact fun _ hentry => Or.inl hentry
    | cons pair rest ih =>
        intro entries hentry
        rcases ih _ hentry with hinserted | hrest
        · rcases mem_of_mem_insert hinserted with hold | hnew
          · exact Or.inl hold
          · exact Or.inr (hnew ▸ List.mem_cons_self)
        · exact Or.inr (List.mem_cons_of_mem _ hrest)
  exact (general pairs [] h).resolve_left List.not_mem_nil

/-- Pairs whose names differ are entered one behind the other. -/
theorem ofPairs_eq_self {pairs : List (String × α)} (hdistinct : (keys pairs).Nodup) :
    ofPairs pairs = pairs := by
  have general : ∀ (rest : List (String × α)) (entries : Keyed α), (keys (entries ++ rest)).Nodup →
      rest.foldl (fun entries pair => insert entries pair.1 pair.2) entries = entries ++ rest := by
    intro rest
    induction rest with
    | nil => exact fun entries _ => entries.append_nil.symm
    | cons pair rest ih =>
        intro entries hkeys
        have hnew : pair.1 ∉ keys entries := by
          rw [keys, List.map_append, List.map_cons, List.nodup_append] at hkeys
          exact fun hold => hkeys.2.2 _ hold _ List.mem_cons_self rfl
        rw [List.foldl_cons, insert_of_not_mem entries pair.2 hnew, ih, List.append_assoc]
        · rfl
        · rwa [List.append_assoc]
  exact general pairs [] hdistinct

end Keyed

end SheetImport
