/-!
# Words of the game

Abilities, skills and spell levels, by the codes that the game system's records use.
-/

namespace SheetImport.Actor

/-- The six abilities, in the order of the sheet. -/
def abilities : List String :=
  ["str", "dex", "con", "int", "wis", "cha"]

/-- A skill and the ability it depends on. -/
structure Skill where
  code : String
  ability : String

/-- The eighteen skills, in the order of the records. -/
def skills : List Skill := [
  ⟨"acr", "dex"⟩, ⟨"ani", "wis"⟩, ⟨"arc", "int"⟩, ⟨"ath", "str"⟩, ⟨"dec", "cha"⟩, ⟨"his", "int"⟩,
  ⟨"ins", "wis"⟩, ⟨"itm", "cha"⟩, ⟨"inv", "int"⟩, ⟨"med", "wis"⟩, ⟨"nat", "int"⟩, ⟨"prc", "wis"⟩,
  ⟨"prf", "cha"⟩, ⟨"per", "cha"⟩, ⟨"rel", "int"⟩, ⟨"slt", "dex"⟩, ⟨"ste", "dex"⟩, ⟨"sur", "wis"⟩]

def slotLevels : List Nat :=
  [1, 2, 3, 4, 5, 6, 7, 8, 9]

end SheetImport.Actor
