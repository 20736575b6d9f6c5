import SheetImport.Actor.Sections
import SheetImport.Format.Basic

/-!
# The form export

The fields of a character sheet form.  Checkboxes are written as `True` and `Off`, blank entries as
empty text or one blank.
-/

namespace SheetImport.FormExport

open SheetImport.Actor (abilityBlock abilityBlocks bonuses deathSaves encumbrance experience
  hitPoints initiative resources skillBlock skillBlocks slotBlocks traitList)
open SheetImport.Template (null text integer)

def resistanceFields : List String := [
  "Resistance Damage Type 1", "Resistance Damage Type 2", "Resistance Damage Type 3",
  "Resistance Damage Type 4", "Resistance Damage Type 5"]

def languageFields : List String :=
  ["Language 1", "Language 2", "Language 3", "Language 4", "Language 5"]

/-- How the names of an ability's fields begin. -/
def abilityStem (code : String) : String :=
  match code with
  | "str" => "Str"
  | "dex" => "Dex"
  | "con" => "Con"
  | "int" => "Int"
  | "wis" => "Wis"
  | "cha" => "Cha"
  | other => other

/-- How the names of a skill's checkboxes begin. -/
def skillStem (code : String) : String :=
  match code with
  | "acr" => "Acr"
  | "ani" => "Ani"
  | "arc" => "Arc"
  | "ath" => "Ath"
  | "dec" => "Dec"
  | "his" => "His"
  | "ins" => "Ins"
  | "itm" => "Inti"
  | "inv" => "Inv"
  | "med" => "Med"
  | "nat" => "Nat"
  | "prc" => "Perc"
  | "prf" => "Perf"
  | "per" => "Pers"
  | "rel" => "Rel"
  | "slt" => "Sle"
  | "ste" => "Ste"
  | "sur" => "Sur"
  | _ => ""

/-- One ability, with its checkbox as a number. -/
def ability (code : String) : Template :=
  let stem := abilityStem code
  abilityBlock stem (.lookup .checkbox [stem ++ " ST Prof"]) (stem ++ " Mod") (stem ++ " ST Mod")

/-- One skill.  Its rank is the number of its two boxes that are checked. -/
def skill (skill : Actor.Skill) : Template :=
  let stem := skillStem skill.code
  skillBlock skill
    (.lookup .checkedCount [stem ++ " Exp", stem ++ " Prof"])
    (if skill.code = "inv" then .field "Inv Bonus" else null)
    (if skill.code = "prc" then .field "Passive Perception" else null)

def attributes : Template :=
  .subtree [
    ("ac", .subtree [("value", .field "AC")]),
    ("hp", hitPoints "HP Current" "HP Max" "HP Temp"),
    ("init", initiative "Initiative bonus"),
    ("spellcasting", text "int"),
    ("speed", .subtree [("value", .field "Speed"), ("special", null)]),
    ("death", deathSaves),
    ("encumbrance", encumbrance (integer 150)),
    ("exhaustion", null),
    ("inspiration", .field "Inspiration"),
    ("hd", .field "HD1 Level"),
    ("prof", .field "Proficiency Bonus"),
    ("spelldc", .field "Spell save DC 1")]

def details : Template :=
  .subtree [
    ("biography", .subtree [("value", null), ("public", .field "Background History")]),
    ("alignment", .field "Alignment"),
    ("race", .field "Race"),
    ("background", .field "Background"),
    ("xp", experience "Total Experience"),
    ("trait", .field "Personality Trait"),
    ("ideal", .field "Ideal"),
    ("bond", .field "Bond"),
    ("flaw", .field "Flaw"),
    ("level", .field "Character Level")]

def traits : Template :=
  .subtree [
    ("size", .field "Size Category"),
    ("di", traitList .emptyList),
    ("dr", traitList (.lookup .filledIn resistanceFields)),
    ("dv", traitList .emptyList),
    ("ci", traitList .emptyList),
    ("senses", .field "Vision"),
    ("languages", traitList (.lookup .filledInLowercase languageFields)),
    ("weaponProf", traitList .emptyList),
    ("armorProf", traitList .emptyList),
    ("toolProf", traitList .emptyList)]

def currency : Template :=
  .subtree [
    ("pp", .field "Platinum Pieces"),
    ("gp", .field "Gold Pieces"),
    ("ep", .field "Electrum Pieces"),
    ("sp", .field "Silver Pieces"),
    ("cp", .field "Copper Pieces")]

/-- The field with the slots of a spell level. -/
def slotField (level : Nat) : String :=
  "SpellSlots.CheckboxesSet.lvl" ++ String.ofList (Decimal.digitsOf level)

def template : Template :=
  Actor.record (.field "AdvLog.PC Name")
    (.subtree [
      ("abilities", abilityBlocks ability),
      ("attributes", attributes),
      ("details", details),
      ("traits", traits),
      ("currency", currency),
      ("skills", skillBlocks skill),
      ("spells", slotBlocks fun level => .field (slotField level)),
      ("bonuses", bonuses),
      ("resources", resources)])

def format : Format :=
  ⟨"mpmb", "MPMB Character Record Sheet", template,
    [Extractor.freeTextClass, Extractor.spellList]⟩

end SheetImport.FormExport
