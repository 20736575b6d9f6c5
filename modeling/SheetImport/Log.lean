/-!
# The log

What a run does is told in a log as it goes along.  An event of the log says where it comes from, how
much it matters and what happened.  A filter decides which events are shown at all.
-/

namespace SheetImport

/-- How much an event matters, from the most to the least. -/
inductive Level
  | error
  | warn
  | info
  | debug
  deriving DecidableEq

/-- What stands in a field of an event. -/
inductive FieldValue
  /-- Text that is shown in quotes. -/
  | quoted (s : String)
  /-- Text that is shown as it is. -/
  | shown (s : String)
  | number (n : Nat)
  /-- Why a library refused something, in its own words. -/
  | reason
  deriving DecidableEq

structure Event where
  level : Level
  /-- The part of the program that the event comes from. -/
  target : String
  message : String
  fields : List (String × FieldValue)
  deriving DecidableEq

/-- Which events are shown. -/
abbrev LogFilter := Event → Bool

namespace LogFilter

/-- Nothing is shown as long as there is no log. -/
def silent : LogFilter :=
  fun _ => false

/-- Where the events of this program come from, or what that begins with. -/
def program : String := "pcimport_engine"

/-- The filter that holds unless another one is asked for: all events of this program but those that
only help to find faults in it. -/
def standard : LogFilter := fun event =>
  program.toList.isPrefixOf event.target.toList && event.level != .debug

end LogFilter

/-- Actions in which events can be logged. -/
class Logging (m : Type → Type) where
  log : Event → m Unit

export Logging (log)

/-- A computation without effects has no log. -/
instance : Logging Id where
  log _ := ()

/-- Logs events one after the other. -/
def logAll {m : Type → Type} [Monad m] [Logging m] (events : List Event) : m Unit :=
  events.forM log

instance {σ : Type} {m : Type → Type} [Monad m] [Logging m] : Logging (StateT σ m) where
  log event := fun s => do
    log event
    return ((), s)

end SheetImport
