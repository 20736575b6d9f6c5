import Mathlib.Data.List.Forall2
import SheetImport.Json.Lexer
import SheetImport.Json.Printer
import SheetImport.Proofs.Json.Numerals

/-!
# The tokens of printed documents

The compact and the pretty text of a document are read as the same tokens, those of the document
itself.  Strings, marks and words are read as their tokens whatever follows.  A number is read only
when the character behind it cannot belong to it, and what is printed behind a number never does.
-/

namespace SheetImport.Json

namespace Lexer

/-- The tokens of a text that begins at a position. -/
def run (s : State) (cs : List Char) : Option (List Token) :=
  (cs.foldlM step s).bind finish

theorem run_cons (s : State) (c : Char) (cs : List Char) :
    run s (c :: cs) = (step s c).bind fun next => run next cs := by
  rw [run, List.foldlM_cons]
  exact Option.bind_assoc (step s c) (fun next => cs.foldlM step next) finish

/-- Whether a text is read as some tokens, whatever stands before and behind it. -/
def Reads (cs : List Char) (tokens : List Token) : Prop :=
  ∀ before rest,
    run ⟨.between, before⟩ (cs ++ rest) = run ⟨.between, tokens.reverse ++ before⟩ rest

/-- Whether a text is read as some tokens, provided that no number can go on behind it. -/
def ReadsApart (cs : List Char) (tokens : List Token) : Prop :=
  ∀ before rest, (∀ c ∈ rest.head?, continuesNumeral c = false) →
    run ⟨.between, before⟩ (cs ++ rest) = run ⟨.between, tokens.reverse ++ before⟩ rest

section Append

variable {first second : List Char} {left right : List Token}

/-- Two texts in a row are read one after the other. -/
theorem run_append {before : List Token} {rest : List Char}
    (hfirst : run ⟨.between, before⟩ (first ++ (second ++ rest)) =
      run ⟨.between, left.reverse ++ before⟩ (second ++ rest))
    (hsecond : run ⟨.between, left.reverse ++ before⟩ (second ++ rest) =
      run ⟨.between, right.reverse ++ (left.reverse ++ before)⟩ rest) :
    run ⟨.between, before⟩ (first ++ second ++ rest) =
      run ⟨.between, (left ++ right).reverse ++ before⟩ rest :=
  calc
    run ⟨.between, before⟩ (first ++ second ++ rest)
      = run ⟨.between, before⟩ (first ++ (second ++ rest)) := by rw [List.append_assoc]
    _ = run ⟨.between, left.reverse ++ before⟩ (second ++ rest) := hfirst
    _ = run ⟨.between, right.reverse ++ (left.reverse ++ before)⟩ rest := hsecond
    _ = run ⟨.between, (left ++ right).reverse ++ before⟩ rest := by
      rw [List.reverse_append, List.append_assoc]

theorem Reads.apart (h : Reads first left) : ReadsApart first left :=
  fun before rest _ => h before rest

theorem Reads.append (hfirst : Reads first left) (hsecond : Reads second right) :
    Reads (first ++ second) (left ++ right) := by
  intro before rest
  exact run_append (hfirst _ _) (hsecond _ _)

theorem Reads.append_apart (hfirst : Reads first left) (hsecond : ReadsApart second right) :
    ReadsApart (first ++ second) (left ++ right) := by
  intro before rest hrest
  exact run_append (hfirst _ _) (hsecond _ _ hrest)

theorem ReadsApart.append {c : Char} (hfirst : ReadsApart first left)
    (hsecond : Reads (c :: second) right) (hc : continuesNumeral c = false) :
    Reads (first ++ c :: second) (left ++ right) := by
  intro before rest
  have hnext : ∀ d ∈ (c :: second ++ rest).head?, continuesNumeral d = false := by
    rintro d ⟨⟩
    exact hc
  exact run_append (hfirst _ _ hnext) (hsecond _ _)

end Append

/-! ## Marks, blanks and words -/

theorem reads_openList : Reads ['['] [.openList] := fun _ _ => rfl

theorem reads_closeList : Reads [']'] [.closeList] := fun _ _ => rfl

theorem reads_openObject : Reads ['\x7b'] [.openObject] := fun _ _ => rfl

theorem reads_closeObject : Reads ['\x7d'] [.closeObject] := fun _ _ => rfl

theorem reads_comma : Reads [','] [.comma] := fun _ _ => rfl

theorem reads_colon : Reads [':'] [.colon] := fun _ _ => rfl

theorem reads_nullText : Reads nullText [.null] := fun _ _ => rfl

theorem reads_booleanText (b : Bool) : Reads (booleanText b) [.boolean b] := by
  intro before rest
  cases b <;> rfl

theorem reads_blanks {cs : List Char} (hblank : ∀ c ∈ cs, isBlank c) : Reads cs [] := by
  induction cs with
  | nil => exact fun _ _ => rfl
  | cons c cs ih =>
      have hfirst : Reads [c] [] := by
        intro before rest
        rw [List.singleton_append, run_cons]
        change (start ⟨.between, before⟩ c).bind _ = _
        rw [start, if_pos (hblank c List.mem_cons_self)]
        rfl
      exact hfirst.append (ih fun d hd => hblank d (List.mem_cons_of_mem c hd))

/-! ## Strings -/

theorem hexValue?_hexDigit (n : Nat) : hexValue? (hexDigit n) = some (n % 16) := by
  have hdigit : ∀ d < 16, hexValue? (Nat.digitChar d) = some d := by decide
  exact hdigit (n % 16) (Nat.mod_lt n (by decide))

/-- An escaped character adds its code point to the units of a string. -/
theorem run_escape (c : Char) (units : List Nat) (before : List Token) (rest : List Char) :
    run ⟨.text units, before⟩ (escape c ++ rest) = run ⟨.text (c.toNat :: units), before⟩ rest := by
  rw [escape]
  split_ifs with hquote hslash hb hf hn hr ht hcontrol
  · subst hquote; rfl
  · subst hslash; rfl
  · subst hb; rfl
  · subst hf; rfl
  · subst hn; rfl
  · subst hr; rfl
  · subst ht; rfl
  · have hvalue : 16 * (c.toNat / 16 % 16) + c.toNat % 16 = c.toNat := by omega
    have hzero : hexValue? '0' = some 0 := rfl
    simp [run_cons, step, hzero, hexValue?_hexDigit, hvalue]
  · simp [run_cons, step, hquote, hslash, hcontrol]

/-- No code point of a text is half a surrogate pair. -/
theorem charsOfUnits?_map_toNat (cs : List Char) : charsOfUnits? (cs.map Char.toNat) = some cs := by
  induction cs with
  | nil => rfl
  | cons c cs ih =>
      have hvalid := c.valid
      have htoNat : c.toNat = c.val.toNat := rfl
      have hhigh : ¬(0xD800 ≤ c.toNat ∧ c.toNat < 0xDC00) := by
        rw [htoNat]
        rcases hvalid with hsmall | hlarge <;> omega
      have hlow : ¬(0xDC00 ≤ c.toNat ∧ c.toNat < 0xE000) := by
        rw [htoNat]
        rcases hvalid with hsmall | hlarge <;> omega
      rw [List.map_cons, charsOfUnits?.eq_def]
      simp only [hhigh, hlow, if_false, ih, Option.map_some, Char.ofNat_toNat]

theorem run_flatMap_escape (cs : List Char) (units : List Nat) (before : List Token)
    (rest : List Char) :
    run ⟨.text units, before⟩ (cs.flatMap escape ++ rest) =
      run ⟨.text ((cs.map Char.toNat).reverse ++ units), before⟩ rest := by
  induction cs generalizing units with
  | nil => rfl
  | cons c cs ih =>
      rw [List.flatMap_cons, List.append_assoc, run_escape, ih, List.map_cons, List.reverse_cons,
        List.append_assoc, List.singleton_append]

theorem reads_quoted (s : String) : Reads (quoted s) [.text (some s)] := by
  intro before rest
  have hunits : (charsOfUnits? (((s.toList.map Char.toNat).reverse ++ []).reverse)).map
      String.ofList = some s := by
    rw [List.append_nil, List.reverse_reverse, charsOfUnits?_map_toNat, Option.map_some,
      String.ofList_toList]
  calc
    run ⟨.between, before⟩ (quoted s ++ rest)
      = run ⟨.text [], before⟩ (s.toList.flatMap escape ++ '"' :: rest) := by
        rw [quoted, List.cons_append, List.append_assoc, run_cons]
        rfl
    _ = run ⟨.text ((s.toList.map Char.toNat).reverse ++ []), before⟩ ('"' :: rest) :=
      run_flatMap_escape s.toList [] before _
    _ = run ⟨.between, .text (some s) :: before⟩ rest := by
      rw [run_cons, step]
      simp only [if_true, hunits]
      rfl

/-! ## Numbers -/

/-- A digit or a minus sign begins a number. -/
theorem start_of_isDigit {c : Char} (hc : c.isDigit ∨ c = '-') (before : List Token) :
    start ⟨.between, before⟩ c = some ⟨.numeral [c], before⟩ := by
  have hother : ∀ d : Char, d.isDigit = false → d ≠ '-' → c ≠ d := by
    rintro d hdigit hminus rfl
    rcases hc with hc | hc
    · rw [hdigit] at hc
      cases hc
    · exact hminus hc
  have hblank : isBlank c = false := by
    simp [isBlank, hother]
  rw [start, if_neg (by simp [hblank])]
  -- Neither a mark nor the first letter of a word, of which there are ten in all.
  iterate 10 rw [if_neg (hother _ (by decide) (by decide))]
  rw [if_pos hc]

theorem run_numeral {cs : List Char} (hcs : ∀ c ∈ cs, continuesNumeral c) (chars : List Char)
    (before : List Token) (rest : List Char) :
    run ⟨.numeral chars, before⟩ (cs ++ rest) =
      run ⟨.numeral (cs.reverse ++ chars), before⟩ rest := by
  induction cs generalizing chars with
  | nil => rfl
  | cons c cs ih =>
      have hc : step ⟨.numeral chars, before⟩ c = some ⟨.numeral (c :: chars), before⟩ :=
        if_pos (hcs c List.mem_cons_self)
      rw [List.cons_append, run_cons, hc, Option.bind_some,
        ih fun d hd => hcs d (List.mem_cons_of_mem c hd), List.reverse_cons, List.append_assoc,
        List.singleton_append]

/-- A number ends in front of a character that cannot belong to it, or with the text. -/
theorem run_endNumeral {chars : List Char} {numeral : Numeral}
    (hnumeral : Numeral.ofChars? chars.reverse = some numeral) {rest : List Char}
    (hrest : ∀ c ∈ rest.head?, continuesNumeral c = false) (before : List Token) :
    run ⟨.numeral chars, before⟩ rest =
      run ⟨.between, .number (Number.ofNumeral? numeral) :: before⟩ rest := by
  have hend : endNumeral ⟨.numeral chars, before⟩ chars =
      some ⟨.between, .number (Number.ofNumeral? numeral) :: before⟩ := by
    rw [endNumeral, hnumeral]
    rfl
  cases rest with
  | nil =>
      change (endNumeral ⟨.numeral chars, before⟩ chars).map _ = _
      rw [hend]
      rfl
  | cons c rest =>
      have hstep : step ⟨.numeral chars, before⟩ c =
          start ⟨.between, .number (Number.ofNumeral? numeral) :: before⟩ c := by
        rw [step]
        simp only [hrest c rfl, hend, Option.bind_some]
        rfl
      rw [run_cons, run_cons, hstep]
      rfl

theorem continuesNumeral_of_isDigit {c : Char} (h : c.isDigit) : continuesNumeral c := by
  simp [continuesNumeral, h]

/-- All characters of a numeral can belong to a number. -/
theorem continuesNumeral_of_mem_text {n : Numeral} (h : n.WellFormed) {c : Char} (hc : c ∈ n.text) :
    continuesNumeral c := by
  have hunsigned : ∀ d ∈ n.unsignedText, continuesNumeral d := by
    intro d hd
    rcases List.mem_append.mp hd with hwhole | hd
    · exact continuesNumeral_of_isDigit (h.whole d hwhole)
    rcases List.mem_append.mp hd with hfraction | hexponent
    · cases hgiven : n.fraction with
      | none => simp [hgiven, Numeral.fractionText] at hfraction
      | some digits =>
          rw [hgiven, Numeral.fractionText] at hfraction
          rcases List.mem_cons.mp hfraction with rfl | hdigit
          · rfl
          · exact continuesNumeral_of_isDigit ((h.fraction digits hgiven).2 d hdigit)
    · cases hgiven : n.exponent with
      | none => simp [hgiven, Numeral.exponentText] at hexponent
      | some exponent =>
          rw [hgiven, Numeral.exponentText, List.mem_cons, List.mem_cons] at hexponent
          rcases hexponent with rfl | rfl | hdigit
          · rfl
          · split <;> rfl
          · exact continuesNumeral_of_isDigit ((h.exponent exponent hgiven).2 d hdigit)
  rw [Numeral.text] at hc
  split at hc
  case isTrue =>
    rcases List.mem_cons.mp hc with rfl | hc
    · rfl
    · exact hunsigned c hc
  case isFalse => exact hunsigned c hc

/-- The text of a number is one token. -/
theorem readsApart_number (n : Number) : ReadsApart n.text [.number n.reread] := by
  intro before rest hrest
  obtain ⟨numeral, hwell, htext⟩ := n.exists_text
  obtain ⟨c, cs, hcons, hfirst⟩ := Numeral.exists_text_eq_cons hwell
  have hchars : Numeral.ofChars? n.text = some numeral := htext ▸ Numeral.ofChars?_text hwell
  have hcontinues : ∀ d ∈ cs, continuesNumeral d := by
    intro d hd
    apply continuesNumeral_of_mem_text hwell
    rw [hcons]
    exact List.mem_cons_of_mem c hd
  rw [htext] at hcons
  have hreverse : Numeral.ofChars? (cs.reverse ++ [c]).reverse = some numeral := by
    rw [List.reverse_append, List.reverse_reverse, List.reverse_singleton, List.singleton_append,
      ← hcons, hchars]
  calc
    run ⟨.between, before⟩ (n.text ++ rest)
      = run ⟨.numeral [c], before⟩ (cs ++ rest) := by
        rw [hcons, List.cons_append, run_cons]
        change (start ⟨.between, before⟩ c).bind _ = _
        rw [start_of_isDigit hfirst, Option.bind_some]
    _ = run ⟨.numeral (cs.reverse ++ [c]), before⟩ rest := run_numeral hcontinues [c] before rest
    _ = run ⟨.between, .number (Number.ofNumeral? numeral) :: before⟩ rest :=
      run_endNumeral hreverse hrest before
    _ = run ⟨.between, [.number n.reread].reverse ++ before⟩ rest := by
      rw [Number.reread, hchars]
      rfl

end Lexer

/-! ## Documents -/

mutual

/-- The tokens of a document. -/
def tokens : Json → List Token
  | .null => [.null]
  | .boolean b => [.boolean b]
  | .number n => [.number n.reread]
  | .text s => [.text (some s)]
  | .list items => .openList :: ([Token.comma].intercalate (itemTokens items) ++ [.closeList])
  | .object members =>
      .openObject :: ([Token.comma].intercalate (memberTokens members) ++ [.closeObject])

def itemTokens : List Json → List (List Token)
  | [] => []
  | item :: rest => tokens item :: itemTokens rest

def memberTokens : List (String × Json) → List (List Token)
  | [] => []
  | (key, value) :: rest => (.text (some key) :: .colon :: tokens value) :: memberTokens rest

end

namespace Lexer

theorem isBlank_lineBreak (depth : Nat) : ∀ c ∈ lineBreak depth, isBlank c := by
  intro c hc
  rcases List.mem_cons.mp hc with rfl | hc
  · rfl
  · rw [List.eq_of_mem_replicate hc]
    rfl

/-- Parts with a comma between any two of them, and possibly blanks behind the commas. -/
theorem readsApart_joined {blanks : List Char} (hblanks : ∀ c ∈ blanks, isBlank c)
    {parts : List (List Char)} {readings : List (List Token)}
    (h : List.Forall₂ ReadsApart parts readings) :
    ReadsApart (joined (',' :: blanks) parts) ([Token.comma].intercalate readings) := by
  induction h with
  | nil => exact fun _ _ _ => rfl
  | @cons part reading parts readings hpart hparts ih =>
      cases hparts with
      | nil => simpa [joined] using hpart
      | cons hnext hrest =>
          have hcomma : Reads (',' :: blanks) [.comma] := reads_comma.append (reads_blanks hblanks)
          have hfirst := hpart.append hcomma (by rfl)
          have hall := hfirst.append_apart ih
          simpa [joined, List.intercalate_cons_cons] using hall

theorem Reads.enclosed {opening closing : Char} {openToken closeToken : Token}
    (hopen : Reads [opening] [openToken]) {tail : List Char}
    (hclose : Reads (closing :: tail) [closeToken]) (hend : continuesNumeral closing = false)
    {cs : List Char} {readings : List Token} (h : ReadsApart cs readings) :
    Reads (opening :: (cs ++ closing :: tail)) (openToken :: (readings ++ [closeToken])) :=
  hopen.append (h.append hclose hend)

theorem reads_bracketed {opening closing : Char} {openToken closeToken : Token}
    (hopen : Reads [opening] [openToken]) (hclose : Reads [closing] [closeToken]) (depth : Nat)
    {lines : List (List Char)} {readings : List (List Token)}
    (h : List.Forall₂ ReadsApart lines readings) :
    Reads (bracketed opening closing depth lines)
      (openToken :: ([Token.comma].intercalate readings ++ [closeToken])) := by
  cases h with
  | nil => exact hopen.append hclose
  | @cons line reading lines readings hline hlines =>
      have hparts := readsApart_joined (isBlank_lineBreak (depth + 1)) (.cons hline hlines)
      have hbody := (reads_blanks (isBlank_lineBreak (depth + 1))).append_apart hparts
      have hlast := (reads_blanks (isBlank_lineBreak depth)).append hclose
      have hall := hopen.enclosed hlast (by rfl) hbody
      simpa [bracketed, lineBreak] using hall

theorem readsApart_member (key : String) {blanks : List Char} (hblanks : ∀ c ∈ blanks, isBlank c)
    {cs : List Char} {readings : List Token} (h : ReadsApart cs readings) :
    ReadsApart (quoted key ++ ':' :: (blanks ++ cs)) (.text (some key) :: .colon :: readings) := by
  have hmark := reads_colon.append (reads_blanks hblanks)
  have hall := (reads_quoted key).append_apart (hmark.append_apart h)
  simpa using hall

mutual

theorem readsApart_compactText : ∀ j : Json, ReadsApart (compactText j) j.tokens
  | .null => reads_nullText.apart
  | .boolean b => (reads_booleanText b).apart
  | .number n => readsApart_number n
  | .text s => (reads_quoted s).apart
  | .list items => by
      have hitems := readsApart_joined (List.forall_mem_nil _) (forall₂_compactItems items)
      exact (reads_openList.enclosed reads_closeList (by rfl) hitems).apart
  | .object members => by
      have hmembers := readsApart_joined (List.forall_mem_nil _) (forall₂_compactMembers members)
      exact (reads_openObject.enclosed reads_closeObject (by rfl) hmembers).apart

theorem forall₂_compactItems :
    ∀ items : List Json, List.Forall₂ ReadsApart (compactItems items) (itemTokens items)
  | [] => .nil
  | item :: rest => .cons (readsApart_compactText item) (forall₂_compactItems rest)

theorem forall₂_compactMembers : ∀ members : List (String × Json),
    List.Forall₂ ReadsApart (compactMembers members) (memberTokens members)
  | [] => .nil
  | (key, value) :: rest =>
      .cons (readsApart_member key (List.forall_mem_nil _) (readsApart_compactText value))
        (forall₂_compactMembers rest)

end

mutual

theorem readsApart_prettyText :
    ∀ (depth : Nat) (j : Json), ReadsApart (prettyText depth j) j.tokens
  | _, .null => reads_nullText.apart
  | _, .boolean b => (reads_booleanText b).apart
  | _, .number n => readsApart_number n
  | _, .text s => (reads_quoted s).apart
  | depth, .list items =>
      (reads_bracketed reads_openList reads_closeList depth
        (forall₂_prettyItems (depth + 1) items)).apart
  | depth, .object members =>
      (reads_bracketed reads_openObject reads_closeObject depth
        (forall₂_prettyMembers (depth + 1) members)).apart

theorem forall₂_prettyItems : ∀ (depth : Nat) (items : List Json),
    List.Forall₂ ReadsApart (prettyItems depth items) (itemTokens items)
  | _, [] => .nil
  | depth, item :: rest => .cons (readsApart_prettyText depth item) (forall₂_prettyItems depth rest)

theorem forall₂_prettyMembers : ∀ (depth : Nat) (members : List (String × Json)),
    List.Forall₂ ReadsApart (prettyMembers depth members) (memberTokens members)
  | _, [] => .nil
  | depth, (key, value) :: rest =>
      .cons (readsApart_member key (List.forall_mem_singleton.mpr rfl)
          (readsApart_prettyText depth value))
        (forall₂_prettyMembers depth rest)

end

end Lexer

theorem tokens?_of_readsApart {cs : List Char} {readings : List Token}
    (h : Lexer.ReadsApart cs readings) : tokens? cs = some readings := by
  have hrun := h [] [] (by simp)
  rw [List.append_nil, List.append_nil] at hrun
  calc
    tokens? cs = Lexer.run ⟨.between, []⟩ cs := rfl
    _ = Lexer.run ⟨.between, readings.reverse⟩ [] := hrun
    _ = some readings := congrArg some readings.reverse_reverse

end SheetImport.Json
