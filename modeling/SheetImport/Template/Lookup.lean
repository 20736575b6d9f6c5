import SheetImport.ImportError
import SheetImport.Sheet
import SheetImport.Text.Lowercase

/-!
# Lookups

A lookup makes one value out of a fixed list of fields: the list of those that are filled in, that
list in lower case, a checkbox as a number, or the number of checked boxes.
-/

namespace SheetImport

inductive Lookup
  | filledIn
  | filledInLowercase
  | checkbox
  | checkedCount

namespace Lookup

/-- What forms write into a list entry that is left blank. -/
def blankEntry : String := " "

def isFilledIn (value : Value) : Bool :=
  value.isTruthy && value.text? != some blankEntry

/-- The values of the fields that are filled in, in the order of the names. -/
def filledInValues (source : Source) (names : List String) : List Value :=
  (names.filterMap source.get?).filter isFilledIn

def isChecked (source : Source) (name : String) : Bool :=
  (source.get? name).bind Value.text? == some checkedMark

/-- One for a checked box, zero for any other field. -/
def checkboxNumber (source : Source) (name : String) : Int64 :=
  if isChecked source name then 1 else 0

def countChecked (source : Source) (names : List String) : Int64 :=
  Int64.ofNat (names.countP (isChecked source))

/-- Texts in lower case; anything but text is a fault of the template. -/
def lowercaseAll : List Value → Except ImportError (List Value)
  | [] => .ok []
  | .text s :: rest => (lowercaseAll rest).map (.text (Text.lowercase s) :: ·)
  | value :: _ => .error (.notText "lowercase_list" value)

/-- The name by which templates and failures call the lookup. -/
def name : Lookup → String
  | .filledIn => "map_array"
  | .filledInLowercase => "lowercase_map_array"
  | .checkbox => "boolean_field_to_int"
  | .checkedCount => "sum_proficiency_flags"

/-- Makes the value.  Only a checkbox cares how many fields there are. -/
def apply (lookup : Lookup) (source : Source) (names : List String) : Except ImportError Value :=
  match lookup with
  | .filledIn => .ok (.list (filledInValues source names))
  | .filledInLowercase => (lowercaseAll (filledInValues source names)).map .list
  | .checkbox =>
      match names with
      | [name] => .ok (.integer (checkboxNumber source name))
      | _ =>
          .error (.invalidArguments (Lookup.checkbox.name)
            ("expected exactly 1 field name, got " ++
              String.ofList (Decimal.digitsOf names.length)))
  | .checkedCount => .ok (.integer (countChecked source names))

end Lookup

end SheetImport
