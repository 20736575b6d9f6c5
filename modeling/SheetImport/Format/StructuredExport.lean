import SheetImport.Actor.Sections
import SheetImport.Format.Basic

/-!
# The structured export

The export of a virtual tabletop.  It is nested, so its fields are addressed by dotted paths.  The
entries of its lists have numbered names.
-/

namespace SheetImport.StructuredExport

open SheetImport.Actor (abilityBlock abilityBlocks bonuses deathSaves encumbrance experience
  hitPoints initiative resources skillBlock skillBlocks slotBlocks traitList)
open SheetImport.Template (null text integer)

def abilityName (code : String) : String :=
  match code with
  | "str" => "strength"
  | "dex" => "dexterity"
  | "con" => "constitution"
  | "int" => "intelligence"
  | "wis" => "wisdom"
  | "cha" => "charisma"
  | _ => ""

/-- The fields with the names of a list's first six entries. -/
def entryNames (list : String) : List String :=
  ["1", "2", "3", "4", "5", "6"].map fun digit => list ++ ".id-0000" ++ digit ++ ".name"

def ability (code : String) : Template :=
  let stem := "abilities." ++ abilityName code
  abilityBlock (stem ++ ".score") (.field (stem ++ ".saveprof")) (stem ++ ".bonus") (stem ++ ".save")

/-- One skill.  The export lists proficiencies by position, so ranks are left to be filled in. -/
def skill (skill : Actor.Skill) : Template :=
  skillBlock skill (integer 0) null (if skill.code = "prc" then .field "perception" else null)

def attributes : Template :=
  .subtree [
    ("ac", .subtree [("value", .field "defenses.ac.total")]),
    ("hp", hitPoints "hp.total" "hp.total" "hp.temporary"),
    ("init", initiative "initiative.total"),
    ("spellcasting", text "int"),
    ("speed", .subtree [("value", .field "speed.total"), ("special", null)]),
    ("death", deathSaves),
    ("encumbrance", encumbrance (.field "encumbrance.max")),
    ("exhaustion", null),
    ("inspiration", .field "inspiration"),
    ("hd", null),
    ("prof", .field "profbonus"),
    ("spelldc", null)]

def details : Template :=
  .subtree [
    ("biography", .subtree [("value", null), ("public", null)]),
    ("alignment", .field "alignment"),
    ("race", .field "race"),
    ("background", .field "background"),
    ("xp", experience "exp"),
    ("trait", .field "personalitytraits"),
    ("ideal", .field "ideals"),
    ("bond", .field "bonds"),
    ("flaw", .field "flaws"),
    ("level", .field "level")]

def traits : Template :=
  .subtree [
    ("size", .field "size"),
    ("di", traitList .emptyList),
    ("dr", traitList .emptyList),
    ("dv", traitList .emptyList),
    ("ci", traitList .emptyList),
    ("senses", .field "senses"),
    ("languages", traitList (.lookup .filledInLowercase (entryNames "languagelist"))),
    ("weaponProf", traitList (.lookup .filledIn (entryNames "proficiencylist"))),
    ("armorProf", traitList .emptyList),
    ("toolProf", traitList .emptyList)]

/-- Coins, from platinum in the fifth slot down to copper in the first. -/
def currency : Template :=
  .subtree [
    ("pp", .field "coins.slot5.amount"),
    ("gp", .field "coins.slot4.amount"),
    ("ep", .field "coins.slot3.amount"),
    ("sp", .field "coins.slot2.amount"),
    ("cp", .field "coins.slot1.amount")]

/-- The field with the slots of a spell level. -/
def slotField (level : Nat) : String :=
  "powermeta.spellslots" ++ String.ofList (Decimal.digitsOf level) ++ ".max"

def template : Template :=
  Actor.record (.field "name")
    (.subtree [
      ("abilities", abilityBlocks ability),
      ("attributes", attributes),
      ("details", details),
      ("traits", traits),
      ("currency", currency),
      ("skills", skillBlocks skill),
      ("spells", slotBlocks fun level => .field (slotField level)),
      ("bonuses", bonuses),
      ("resources", resources)])

def format : Format :=
  ⟨"fantasy_grounds", "Fantasy Grounds Character", template, [Extractor.structuredClass]⟩

end SheetImport.StructuredExport
