import SheetImport.Item
import SheetImport.Text.Lowercase
import SheetImport.Text.Whitespace

/-!
# Settings

A run is set up by named variables.  Only one of them has to be there.
-/

namespace SheetImport

/-- The pack that items of each kind are looked for in. -/
structure PackNames where
  spells : String
  classes : String

namespace PackNames

/-- The packs that are searched unless others are named. -/
def standard : PackNames :=
  ⟨"dnd5e.spells", "dnd5e.classes"⟩

def pack (packs : PackNames) : ItemKind → String
  | .spell => packs.spells
  | .classLevels => packs.classes

end PackNames

/-- The kinds of items, in the order in which their packs are read. -/
def packOrder : List ItemKind :=
  [.spell, .classLevels]

/-- How a run is set up. -/
structure Settings where
  /-- The format of the export. -/
  formatId : String
  /-- The file with the export. -/
  input : String
  /-- The directory that the result is written to. -/
  outputDir : String
  /-- Whether the result is written. -/
  writes : Bool
  /-- The directory with the packs; without one, no items are matched. -/
  compendiumDir : Option String
  packs : PackNames

inductive SettingsError
  | missing (name : String)
  | invalid (name value : String)

def SettingsError.message : SettingsError → String
  | .missing name => "Missing required environment variable: " ++ name
  | .invalid name value => "Invalid value for " ++ name ++ ": " ++ value

namespace Settings

/-- Reads a yes or a no, in any case and with white space around it. -/
def readSwitch? (value : String) : Option Bool :=
  let word := Text.asciiLowercase (Text.trim value)
  if word ∈ ["1", "true", "yes", "on"] then some true
  else if word ∈ ["0", "false", "no", "off"] then some false
  else none

/-- Sets up a run.  The input is looked at first, then whether to write. -/
def ofVariables (valueOf : String → Option String) : Except SettingsError Settings :=
  match (valueOf "PCI_INPUT").filter fun input => Text.trim input ≠ "" with
  | none => .error (.missing "PCI_INPUT")
  | some input =>
      let settings (writes : Bool) : Settings :=
        { formatId := (valueOf "PCI_FORMAT").getD "mpmb"
          input
          outputDir := (valueOf "PCI_OUTPUT_DIR").getD "."
          writes
          compendiumDir := valueOf "PCI_COMPENDIUM_DIR"
          packs :=
            { spells := (valueOf "PCI_SPELL_PACK").getD PackNames.standard.spells
              classes := (valueOf "PCI_CLASS_PACK").getD PackNames.standard.classes } }
      match valueOf "PCI_EXPORT" with
      | none => .ok (settings true)
      | some value =>
          match readSwitch? value with
          | some writes => .ok (settings writes)
          | none => .error (.invalid "PCI_EXPORT" value)

def variableNames : List String := [
  "PCI_INPUT", "PCI_EXPORT", "PCI_FORMAT", "PCI_OUTPUT_DIR", "PCI_COMPENDIUM_DIR",
  "PCI_SPELL_PACK", "PCI_CLASS_PACK"]

end Settings

end SheetImport
