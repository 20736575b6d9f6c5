import SheetImport.Text.CaseTable

/-!
# Lower case

Full lower-casing of text in any script.  Two characters need more than the simple mapping: capital
I with a dot becomes two characters, and capital sigma takes its final form at the end of a word.
-/

namespace SheetImport.Text

def CaseRun.covers (run : CaseRun) (n : Nat) : Bool :=
  run.first ≤ n && n ≤ run.last && (n - run.first) % run.step == 0

/-- The simple lower-case mapping of one character. -/
def lowerChar (c : Char) : Char :=
  match lowerRuns.find? (·.covers c.toNat) with
  | some run => Char.ofNat ((c.toNat : Int) + run.offset).toNat
  | none => c

/-- Whether the first character that is not skipped has case. -/
def casedFirst (cs : List Char) : Bool :=
  match cs.dropWhile caseIgnorable.contains with
  | c :: _ => casedLetters.contains c
  | [] => false

/-- Sigma is final after a cased letter that no cased letter follows. -/
def isFinalSigma (before after : List Char) : Bool :=
  casedFirst before && !casedFirst after

/-- Lower-cases text of which the characters in `before` (last first) are already passed. -/
def lowerAfter (before : List Char) : List Char → List Char
  | [] => []
  | c :: rest =>
      let lowered :=
        if c = 'Σ' then (if isFinalSigma before rest then ['ς'] else ['σ'])
        else if c = 'İ' then ['i', '\u0307']
        else [lowerChar c]
      lowered ++ lowerAfter (c :: before) rest

def lowercase (s : String) : String :=
  String.ofList (lowerAfter [] s.toList)

/-- A to Z in lower case and every other character as it is. -/
def asciiLowercase (s : String) : String :=
  String.ofList (s.toList.map Char.toLower)

end SheetImport.Text
