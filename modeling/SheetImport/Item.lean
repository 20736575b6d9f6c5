import SheetImport.Json.Printer
import SheetImport.Json.Reader

/-!
# Items

An item is something a character has besides its actor record: a class with its level, or a spell.
An item can be written in full and read back, and it can be turned into the data of the item that the
game system keeps.
-/

namespace SheetImport

inductive ItemKind
  | classLevels
  | spell
  deriving DecidableEq

def ItemKind.word : ItemKind → String
  | .classLevels => "class"
  | .spell => "spell"

def ItemKind.ofWord? (word : String) : Option ItemKind :=
  if word = ItemKind.classLevels.word then some .classLevels
  else if word = ItemKind.spell.word then some .spell
  else none

/-- Something a character has.  Levels and subclass mean something for classes only. -/
structure Item where
  kind : ItemKind
  name : String
  levels : Option String
  subclass : Option String
  deriving DecidableEq

namespace Item

def spell (name : String) : Item :=
  ⟨.spell, name, none, none⟩

/-- Where generated items say they come from. -/
def sourceNote : String := "PC Importer"

def classImage : String := "systems/dnd5e/icons/skills/blue_13.jpg"

/-- The item as the game system keeps it. -/
def hostData (item : Item) : Json :=
  match item.kind with
  | .classLevels =>
      .object [
        ("name", .text item.name),
        ("type", .text item.kind.word),
        ("img", .text classImage),
        ("data", .object [
          ("description", .object [
            ("value", .text ""), ("chat", .text ""), ("unidentified", .text "")]),
          ("source", .text sourceNote),
          ("levels", Json.ofText? item.levels),
          ("subclass", Json.ofText? item.subclass),
          ("hitDice", .null),
          ("hitDiceUsed", Json.ofFin 0),
          ("skills", .object []),
          ("spellcasting", .null),
          ("damage", .object [("parts", .list [])])])]
  | .spell =>
      .object [
        ("flags", .object []),
        ("name", .text item.name),
        ("type", .text item.kind.word),
        ("img", .null),
        ("data", .object [])]

def toJson (item : Item) : Json :=
  .object [
    ("name", .text item.name),
    ("kind", .text item.kind.word),
    ("levels", Json.ofText? item.levels),
    ("subclass", Json.ofText? item.subclass)]

/-! ## Reading -/

def readName? : Json.Raw → Option String
  | .text s => s
  | _ => none

/-- An item's kind: its word, or an object with that word over null. -/
def readKind? : Json.Raw → Option ItemKind
  | .text s => s.bind ItemKind.ofWord?
  | .object [(key, .null)] => key.bind ItemKind.ofWord?
  | _ => none

def readDetail? : Json.Raw → Option (Option String)
  | .null => some none
  | .text s => s.map some
  | _ => none

/-- What is known of an item while the members of its object are read. -/
structure Draft where
  name : Option String
  kind : Option ItemKind
  levels : Option (Option String)
  subclass : Option (Option String)

/-- Enters a value where there is none yet. -/
def enter {α : Type} (known : Option α) (read : Option α) : Option (Option α) :=
  match known with
  | some _ => none
  | none => read.map some

/-- Reads one member.  Members of other names are passed over, whatever they hold. -/
def Draft.read? (draft : Draft) (member : Option String × Json.Raw) : Option Draft :=
  match member.1 with
  | none => none
  | some key =>
      if key = "name" then
        (enter draft.name (readName? member.2)).map fun name => { draft with name }
      else if key = "kind" then
        (enter draft.kind (readKind? member.2)).map fun kind => { draft with kind }
      else if key = "levels" then
        (enter draft.levels (readDetail? member.2)).map fun levels => { draft with levels }
      else if key = "subclass" then
        (enter draft.subclass (readDetail? member.2)).map fun subclass => { draft with subclass }
      else some draft

def Draft.finish? (draft : Draft) : Option Item :=
  match draft.name, draft.kind with
  | some name, some kind => some ⟨kind, name, draft.levels.getD none, draft.subclass.getD none⟩
  | _, _ => none

/-- Reads an item from an object, or from a list of its parts in order of which the last two can be
left out. -/
def ofRaw? : Json.Raw → Option Item
  | .object members => (members.foldlM Draft.read? ⟨none, none, none, none⟩).bind Draft.finish?
  | .list [name, kind] => Draft.finish? ⟨readName? name, readKind? kind, none, none⟩
  | .list [name, kind, levels] =>
      (readDetail? levels).bind fun levels =>
        Draft.finish? ⟨readName? name, readKind? kind, levels, none⟩
  | .list [name, kind, levels, subclass] =>
      (readDetail? levels).bind fun levels =>
        (readDetail? subclass).bind fun subclass =>
          Draft.finish? ⟨readName? name, readKind? kind, levels, subclass⟩
  | _ => none

def parse? (s : String) : Option Item :=
  (Json.Raw.ofText? s).bind ofRaw?

end Item

end SheetImport
