import SheetImport.Actor.Vocabulary
import SheetImport.Template.Basic

/-!
# Sections of the actor record

Every format fills the same actor record and only reads other fields for it.  The sections that the
formats share are built here; what differs is passed in.
-/

namespace SheetImport.Actor

open Template (null text integer boolean)

/-- A value for the user to fill in with a note beside it. -/
def traitList (value : Template) : Template :=
  .subtree [("value", value), ("custom", null)]

/-- What the record says about where it comes from. -/
def flags : Template :=
  .subtree [
    ("exportSource", .subtree [
      ("world", null),
      ("system", text "dnd5e"),
      ("coreVersion", text "0.6.6"),
      ("systemVersion", text "0.96")]),
    ("dnd5e", .subtree []),
    ("core", .subtree [("sheetClass", null)]),
    ("PC Importer", text "0.1.0")]

/-- The figure on the map. -/
def token : Template :=
  .subtree [
    ("flags", .subtree []),
    ("name", null),
    ("displayName", null),
    ("img", text "icons/svg/mystery-man.svg"),
    ("tint", null),
    ("width", integer 1),
    ("height", integer 1),
    ("scale", integer 1),
    ("lockRotation", boolean false),
    ("rotation", null),
    ("vision", boolean true),
    ("dimSight", integer 60),
    ("brightSight", null),
    ("dimLight", null),
    ("brightLight", null),
    ("sightAngle", integer 360),
    ("lightAngle", integer 360),
    ("lightAlpha", integer 1),
    ("actorId", null),
    ("actorLink", boolean true),
    ("actorData", null),
    ("disposition", integer 1),
    ("displayBars", null),
    ("bar1", .subtree [("attribute", text "attributes.hp")]),
    ("bar2", .subtree [("attribute", null)]),
    ("randomImg", boolean false)]

/-- The whole record around a format's data. -/
def record (name data : Template) : Template :=
  .subtree [
    ("name", name),
    ("type", text "character"),
    ("flags", flags),
    ("data", data),
    ("sort", null),
    ("token", token),
    ("_id", null),
    ("img", null)]

/-- One ability.  Bonuses are left for the game system to work out. -/
def abilityBlock (value : String) (proficient : Template) (modifier save : String) : Template :=
  .subtree [
    ("value", .field value),
    ("proficient", proficient),
    ("mod", .field modifier),
    ("prof", integer 0),
    ("saveBonus", integer 0),
    ("checkBonus", integer 0),
    ("save", .field save)]

def abilityBlocks (block : String → Template) : Template :=
  .subtree (abilities.map fun code => (code, block code))

def hitPoints (value max temporary : String) : Template :=
  .subtree [
    ("value", .field value),
    ("min", integer 0),
    ("max", .field max),
    ("temp", .field temporary),
    ("tempmax", integer 0)]

def initiative (total : String) : Template :=
  .subtree [
    ("value", integer 0),
    ("bonus", integer 0),
    ("mod", integer 0),
    ("prof", integer 0),
    ("total", .field total)]

def encumbrance (max : Template) : Template :=
  .subtree [
    ("value", integer 0),
    ("max", max),
    ("pct", integer 0),
    ("encumbered", boolean false)]

def deathSaves : Template :=
  .subtree [("success", null), ("failure", null)]

def experience (value : String) : Template :=
  .subtree [("value", .field value), ("min", null), ("max", null), ("pct", null)]

/-- One skill.  Totals are left for the game system to work out. -/
def skillBlock (skill : Skill) (rank bonus passive : Template) : Template :=
  .subtree [
    ("value", rank),
    ("ability", text skill.ability),
    ("bonus", bonus),
    ("mod", null),
    ("prof", null),
    ("total", null),
    ("passive", passive)]

def skillBlocks (block : Skill → Template) : Template :=
  .subtree (skills.map fun skill => (skill.code, block skill))

def slotBlock (max : Template) : Template :=
  .subtree [("value", null), ("max", max), ("override", null)]

/-- The name of the slots of a spell level. -/
def slotName (level : Nat) : String :=
  "spell" ++ String.ofList (Decimal.digitsOf level)

/-- The slots of all spell levels, and those of a pact. -/
def slotBlocks (max : Nat → Template) : Template :=
  .subtree (slotLevels.map (fun level => (slotName level, slotBlock (max level))) ++
    [("pact", .subtree [("value", null), ("max", null), ("override", null), ("level", null)])])

def attackBonuses : Template :=
  .subtree [("attack", null), ("damage", null)]

def bonuses : Template :=
  .subtree [
    ("mwak", attackBonuses),
    ("rwak", attackBonuses),
    ("msak", attackBonuses),
    ("rsak", attackBonuses),
    ("abilities", .subtree [("check", null), ("save", null), ("skill", null)]),
    ("spell", .subtree [("dc", null)])]

def resource : Template :=
  .subtree [
    ("value", null),
    ("max", null),
    ("sr", boolean false),
    ("lr", boolean false),
    ("label", null)]

def resources : Template :=
  .subtree [("primary", resource), ("secondary", resource), ("tertiary", resource)]

end SheetImport.Actor
