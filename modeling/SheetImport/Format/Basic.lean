import SheetImport.Extract
import SheetImport.Template.Basic

/-!
# Formats

A format is what an import needs to know about one kind of export: the template of the actor record
and the extractors that run after it.
-/

namespace SheetImport

structure Format where
  id : String
  displayName : String
  template : Template
  extractors : List Extractor

/-- Formats in the order in which they were registered. -/
abbrev Registry := List Format

namespace Registry

def register (registry : Registry) (format : Format) : Registry :=
  registry ++ [format]

/-- The first format that was registered under that name. -/
def get? (registry : Registry) (id : String) : Option Format :=
  registry.find? (·.id == id)

def ids (registry : Registry) : List String :=
  registry.map Format.id

end Registry

end SheetImport
