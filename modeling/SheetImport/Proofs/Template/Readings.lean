import Mathlib.Data.List.Forall2
import SheetImport.Proofs.Template.Leaves
import SheetImport.Proofs.Text.LowerCase
import SheetImport.Proofs.Value.NormalForm

/-!
# What leaves read, by rules

Each kind of leaf has its rules for what it reads from a sheet.  They speak of the fields and their
values only, and of texts that are other texts trimmed or in lower case, so they do not depend on
how a leaf is evaluated.  The rules leave no choice: what they let a leaf read is what evaluating it
gives.
-/

namespace SheetImport.Template.Leaf

/-- Whether a field's value is an entry of a list: it counts as given, and it is not the blank that
forms write into a list. -/
def IsEntry (value : Value) : Prop :=
  ¬value.IsFalsy ∧ value ≠ .text " "

theorem isEntry_iff {value : Value} : IsEntry value ↔ Lookup.isFilledIn value := by
  rw [IsEntry, Value.isFalsy_iff, Lookup.isFilledIn, Bool.and_eq_true, Bool.not_eq_false]
  refine and_congr_right fun _ => ?_
  cases value <;> simp [Value.text?, Lookup.blankEntry]

instance : DecidablePred IsEntry := fun _ =>
  decidable_of_iff _ isEntry_iff.symm

/-- Whether a field is a box that is checked. -/
def IsChecked (source : Source) (name : String) : Prop :=
  source.get? name = some (.text "True")

theorem isChecked_iff {source : Source} {name : String} :
    IsChecked source name ↔ Lookup.isChecked source name := by
  rw [IsChecked, Lookup.isChecked, beq_iff_eq]
  cases source.get? name with
  | none => simp
  | some value => cases value <;> simp [Value.text?, checkedMark]

instance (source : Source) : DecidablePred (IsChecked source) := fun _ =>
  decidable_of_iff _ isChecked_iff.symm

/-- The entries among some fields, in the order of the names. -/
def entries (source : Source) (names : List String) : List Value :=
  (names.filterMap source.get?).filter fun value => IsEntry value

theorem entries_eq (source : Source) (names : List String) :
    entries source names = Lookup.filledInValues source names := by
  rw [entries, Lookup.filledInValues]
  refine List.filter_congr fun value _ => ?_
  rw [Bool.eq_iff_iff, decide_eq_true_iff, isEntry_iff]

/-- What a leaf reads from a sheet, before it is normalized. -/
inductive Reads (source : Source) : Leaf → Except ImportError Value → Prop
  | literal {value : Value} : Reads source (.literal value) (.ok value)
  | absent {name : String} (habsent : source.get? name = none) :
      Reads source (.field name) (.ok .null)
  /-- Text in a plain field loses the white space at its ends. -/
  | text {name s trimmed : String} (hfield : source.get? name = some (.text s))
      (htrims : Text.Trims s trimmed) : Reads source (.field name) (.ok (.text trimmed))
  | other {name : String} {value : Value} (hfield : source.get? name = some value)
      (hother : ∀ s, value ≠ .text s) : Reads source (.field name) (.ok value)
  | given {name : String} {fallback : Option Value} {value : Value}
      (hfield : source.get? name = some value) (hgiven : ¬value.IsFalsy) :
      Reads source (.fieldOr name fallback) (.ok value)
  /-- A field that is absent or does not count as given gives way to what there is to fall back on. -/
  | fallback {name : String} {value : Value}
      (hnone : ∀ given, source.get? name = some given → given.IsFalsy) :
      Reads source (.fieldOr name (some value)) (.ok value)
  | noFallback {name : String} (hnone : ∀ given, source.get? name = some given → given.IsFalsy) :
      Reads source (.fieldOr name none) (.ok .null)
  | filledIn {names : List String} :
      Reads source (.lookup .filledIn names) (.ok (.list (entries source names)))
  | lowercase {names texts lowered : List String} (htexts : entries source names = texts.map .text)
      (hlowers : List.Forall₂ Text.Lowers texts lowered) :
      Reads source (.lookup .filledInLowercase names) (.ok (.list (lowered.map .text)))
  /-- The first entry that is not text is named in the failure. -/
  | notText {names texts : List String} {value : Value} {rest : List Value}
      (hentries : entries source names = texts.map .text ++ value :: rest)
      (hvalue : ∀ s, value ≠ .text s) :
      Reads source (.lookup .filledInLowercase names) (.error (.notText "lowercase_list" value))
  | checked {name : String} (hchecked : IsChecked source name) :
      Reads source (.lookup .checkbox [name]) (.ok (.integer 1))
  | unchecked {name : String} (hunchecked : ¬IsChecked source name) :
      Reads source (.lookup .checkbox [name]) (.ok (.integer 0))
  | notOneName {names : List String} (hnames : names.length ≠ 1) :
      Reads source (.lookup .checkbox names)
        (.error (.invalidArguments "boolean_field_to_int"
          ("expected exactly 1 field name, got " ++ toString names.length)))
  | checkedCount {names : List String} :
      Reads source (.lookup .checkedCount names)
        (.ok (.integer (Int64.ofNat (names.countP fun name => IsChecked source name))))
  | computed {label : String} {compute : Source → Except ImportError Value} :
      Reads source (.computed label compute) (compute source)

/-! ## The rules and the evaluation -/

theorem lowercaseAll_texts {texts lowered : List String}
    (hlowers : List.Forall₂ Text.Lowers texts lowered) :
    Lookup.lowercaseAll (texts.map .text) = .ok (lowered.map .text) := by
  induction hlowers with
  | nil => rfl
  | cons hfirst hrest ih =>
      rw [List.map_cons, Lookup.lowercaseAll, ih, Text.lowers_iff.mp hfirst]
      rfl

theorem forall₂_lowers_map (texts : List String) :
    List.Forall₂ Text.Lowers texts (texts.map Text.lowercase) := by
  rw [List.forall₂_map_right_iff]
  exact List.forall₂_same.mpr fun s _ => Text.lowers_iff.mpr rfl

theorem lowercaseAll_notText {texts : List String} {value : Value} {rest : List Value}
    (hvalue : ∀ s, value ≠ .text s) :
    Lookup.lowercaseAll (texts.map .text ++ value :: rest) =
      .error (.notText "lowercase_list" value) := by
  induction texts with
  | nil =>
      cases value with
      | text s => exact absurd rfl (hvalue s)
      | _ => rfl
  | cons s more ih => rw [List.map_cons, List.cons_append, Lookup.lowercaseAll, ih]; rfl

/-- A list of values is made of texts only, or some value is the first that is no text. -/
theorem texts_or_notText (values : List Value) :
    (∃ texts : List String, values = texts.map .text) ∨
      ∃ (texts : List String) (value : Value) (rest : List Value),
        values = texts.map .text ++ value :: rest ∧ ∀ s, value ≠ .text s := by
  induction values with
  | nil => exact .inl ⟨[], rfl⟩
  | cons value rest ih =>
      by_cases htext : ∃ s, value = .text s
      · obtain ⟨s, rfl⟩ := htext
        obtain ⟨texts, rfl⟩ | ⟨texts, value, rest, rfl, hvalue⟩ := ih
        · exact .inl ⟨s :: texts, rfl⟩
        · exact .inr ⟨s :: texts, value, rest, rfl, hvalue⟩
      · exact .inr ⟨[], value, rest, rfl, fun s hs => htext ⟨s, hs⟩⟩

theorem ofList_digitsOf (n : Nat) : String.ofList (Decimal.digitsOf n) = toString n := by
  rfl

theorem checkbox_notOneName (source : Source) {names : List String} (hnames : names.length ≠ 1) :
    Lookup.checkbox.apply source names =
      .error (.invalidArguments "boolean_field_to_int"
        ("expected exactly 1 field name, got " ++ toString names.length)) := by
  rw [← ofList_digitsOf]
  match names, hnames with
  | [], _ => rfl
  | _ :: _ :: _, _ => rfl

theorem read_fieldOr_of_isFalsy {source : Source} {name : String} {fallback : Option Value}
    (h : ∀ given, source.get? name = some given → given.IsFalsy) :
    (fieldOr name fallback).read source = .ok (fallback.getD .null) := by
  cases hfield : source.get? name with
  | none => simp [read, hfield]
  | some given => simp [read, hfield, Value.isFalsy_iff.mp (h given hfield)]

theorem read_of_reads {source : Source} {leaf : Leaf} {result : Except ImportError Value}
    (h : leaf.Reads source result) : leaf.read source = result := by
  cases h with
  | literal => rfl
  | absent habsent => simp [read, habsent]
  | text hfield htrims => simp [read, hfield, Text.trims_iff.mp htrims]
  | other hfield hother =>
      rename_i name value
      rw [read, hfield]
      cases value with
      | text s => exact absurd rfl (hother s)
      | _ => rfl
  | given hfield hgiven =>
      rw [Value.isFalsy_iff, Bool.not_eq_false] at hgiven
      simp [read, hfield, hgiven]
  | fallback hnone => exact read_fieldOr_of_isFalsy hnone
  | noFallback hnone => exact read_fieldOr_of_isFalsy hnone
  | filledIn => rw [read, Lookup.apply, entries_eq]
  | lowercase htexts hlowers =>
      rw [read, Lookup.apply, ← entries_eq, htexts, lowercaseAll_texts hlowers]
      rfl
  | notText hentries hvalue =>
      rw [read, Lookup.apply, ← entries_eq, hentries, lowercaseAll_notText hvalue]
      rfl
  | checked hchecked =>
      rw [read, Lookup.apply, Lookup.checkboxNumber, if_pos (isChecked_iff.mp hchecked)]
  | unchecked hunchecked =>
      rw [read, Lookup.apply, Lookup.checkboxNumber, if_neg (hunchecked ∘ isChecked_iff.mpr)]
  | notOneName hnames => exact checkbox_notOneName source hnames
  | checkedCount =>
      rw [read, Lookup.apply, Lookup.countChecked]
      simp only [isChecked_iff, Bool.decide_eq_true]
  | computed => rfl

/-- Every leaf has a rule that applies to a sheet. -/
theorem exists_reads (source : Source) (leaf : Leaf) : ∃ result, leaf.Reads source result := by
  cases leaf with
  | literal value => exact ⟨_, .literal⟩
  | field name =>
      cases hfield : source.get? name with
      | none => exact ⟨_, .absent hfield⟩
      | some value =>
          cases value with
          | text s => exact ⟨_, .text hfield (Text.trims_trim s)⟩
          | _ => exact ⟨_, .other hfield (by simp)⟩
  | fieldOr name fallback =>
      by_cases hgiven : ∃ value, source.get? name = some value ∧ ¬value.IsFalsy
      · obtain ⟨value, hfield, hgiven⟩ := hgiven
        exact ⟨_, .given hfield hgiven⟩
      · have hnone : ∀ given, source.get? name = some given → given.IsFalsy := by
          intro given hfield
          by_contra htruthy
          exact hgiven ⟨given, hfield, htruthy⟩
        cases fallback with
        | none => exact ⟨_, .noFallback hnone⟩
        | some value => exact ⟨_, .fallback hnone⟩
  | lookup way names =>
      cases way with
      | filledIn => exact ⟨_, .filledIn⟩
      | filledInLowercase =>
          obtain ⟨texts, htexts⟩ | ⟨texts, value, rest, hentries, hvalue⟩ :=
            texts_or_notText (entries source names)
          · exact ⟨_, .lowercase htexts (forall₂_lowers_map texts)⟩
          · exact ⟨_, .notText hentries hvalue⟩
      | checkbox =>
          by_cases hnames : names.length = 1
          · obtain ⟨name, rfl⟩ := List.length_eq_one_iff.mp hnames
            by_cases hchecked : IsChecked source name
            · exact ⟨_, .checked hchecked⟩
            · exact ⟨_, .unchecked hchecked⟩
          · exact ⟨_, .notOneName hnames⟩
      | checkedCount => exact ⟨_, .checkedCount⟩
  | computed label compute => exact ⟨_, .computed⟩

theorem reads_iff {source : Source} {leaf : Leaf} {result : Except ImportError Value} :
    leaf.Reads source result ↔ leaf.read source = result := by
  constructor
  · exact read_of_reads
  · rintro rfl
    obtain ⟨result, hreads⟩ := exists_reads source leaf
    rwa [read_of_reads hreads]

end SheetImport.Template.Leaf
