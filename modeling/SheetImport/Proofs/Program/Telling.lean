import SheetImport.Program
import SheetImport.Workspace

/-!
# Actions that only read and log

Most of what a run does changes nothing in the workspace and prints nothing but events of the log.
Importing logs the same events wherever it happens, and all events of matching can be told from those
of other stages.
-/

namespace SheetImport

/-! ## Logging -/

namespace Terminal

/-- A terminal on which some events have been logged. -/
def tell (terminal : Terminal) (events : List Event) : Terminal :=
  { terminal with
    printed := terminal.printed ++ (events.filter terminal.filter).map Printed.event }

theorem tell_nil (terminal : Terminal) : terminal.tell [] = terminal := by
  simp [tell]

theorem tell_append (terminal : Terminal) (first second : List Event) :
    terminal.tell (first ++ second) = (terminal.tell first).tell second := by
  simp [tell]

end Terminal

section Telling

variable {α β : Type} {ws : Workspace}

/-- Whether an action in a workspace gives a value, logs some events and does nothing else. -/
def Tells (ws : Workspace) (action : TerminalM α) (value : α) (events : List Event) : Prop :=
  ∀ terminal : Terminal, terminal.workspace = ws → action terminal = (value, terminal.tell events)

/-- Whether an action in a workspace gives a value and does nothing else. -/
abbrev Reads (ws : Workspace) (action : TerminalM α) (value : α) : Prop :=
  Tells ws action value []

theorem reads_of_eq {action : TerminalM α} {value : α}
    (h : ∀ terminal : Terminal, terminal.workspace = ws → action terminal = (value, terminal)) :
    Reads ws action value :=
  fun terminal hws => (h terminal hws).trans (by rw [terminal.tell_nil])

theorem Reads.pure (value : α) : Reads ws (Pure.pure value) value :=
  reads_of_eq fun _ _ => rfl

theorem Reads.ask (question : Workspace → α) : Reads ws (TerminalM.ask question) (question ws) :=
  reads_of_eq fun _ hws => hws ▸ rfl

theorem TerminalM.bind_eq {action : TerminalM α} {next : α → TerminalM β} {value : α}
    {terminal after : Terminal} (haction : action terminal = (value, after)) :
    (action >>= next) terminal = next value after := by
  change next (action terminal).1 (action terminal).2 = _
  rw [haction]

namespace Tells

variable {action : TerminalM α} {next : α → TerminalM β} {value : α} {result : β}
  {events more : List Event}

theorem log (event : Event) : Tells ws (log event) () [event] := by
  intro terminal hws
  change ((), ite _ _ _) = _
  by_cases hshown : terminal.filter event <;> simp [Terminal.tell, hshown]

/-- What an action gives is handed on to the next, and the events add up. -/
theorem bind (haction : Tells ws action value events) (hnext : Tells ws (next value) result more) :
    Tells ws (action >>= next) result (events ++ more) := by
  intro terminal hws
  rw [TerminalM.bind_eq (haction terminal hws), hnext (terminal.tell events) hws,
    Terminal.tell_append]

theorem logAll (events : List Event) : Tells ws (logAll events) () events := by
  induction events with
  | nil => exact Reads.pure ()
  | cons event rest ih => exact (log event).bind ih

end Tells

theorem Reads.bind {action : TerminalM α} {next : α → TerminalM β} {value : α} {result : β}
    {events : List Event} (haction : Reads ws action value)
    (hnext : Tells ws (next value) result events) : Tells ws (action >>= next) result events :=
  Tells.bind haction hnext

end Telling

/-! ## Importing -/

theorem exists_tells_runExtractors (source : Source) (extractors : List Extractor) :
    ∃ events, ∀ ws, Tells ws (runExtractors source extractors)
      (extractAll source extractors) events := by
  induction extractors with
  | nil => exact ⟨[], fun ws => Reads.pure _⟩
  | cons extractor rest ih =>
      obtain ⟨events, hrest⟩ := ih
      cases hrun : extractor.run source with
      | error e =>
          refine ⟨[], fun ws => ?_⟩
          rw [extractAll_cons, runExtractors, hrun]
          exact Reads.pure _
      | ok items =>
          refine ⟨extractor.event items :: (events ++ []), fun ws => ?_⟩
          rw [extractAll_cons, runExtractors, hrun]
          refine (Tells.log _).bind ((hrest ws).bind ?_)
          cases extractAll source rest <;> exact Reads.pure _

/-- The events of an import do not depend on where it happens. -/
theorem Format.exists_tells_runLogged (format : Format) (source : Source) :
    ∃ events, ∀ ws, Tells ws (format.runLogged source) (format.run source) events := by
  obtain ⟨events, hextract⟩ := exists_tells_runExtractors source format.extractors
  rw [format.run_eq]
  simp only [runLogged]
  cases format.template.resolve source with
  | error e =>
      exact ⟨_, fun ws => (Tells.log _).bind ((Tells.log _).bind (Reads.pure _))⟩
  | ok actor =>
      cases hitems : extractAll source format.extractors with
      | error e =>
          rw [hitems] at hextract
          exact ⟨_, fun ws => (Tells.log _).bind ((hextract ws).bind (Reads.pure _))⟩
      | ok items =>
          rw [hitems] at hextract
          exact ⟨_, fun ws => (Tells.log _).bind
            ((hextract ws).bind ((Tells.log _).bind (Reads.pure _)))⟩

/-! ## Matching -/

/-- Whether an event tells of packs or of matching. -/
def Event.IsOfMatching (event : Event) : Prop :=
  event.target ∈ [PackFolder.target, Catalog.target, matchTarget] ∨
    ∃ item, event = Program.unmatchedEvent item

section Matching

variable {α β : Type} {ws : Workspace}

/-- Whether an action in a workspace only reads and logs events of matching. -/
def OnlyMatches (ws : Workspace) (action : TerminalM α) : Prop :=
  ∃ value events, Tells ws action value events ∧ ∀ event ∈ events, event.IsOfMatching

namespace OnlyMatches

theorem of_reads {action : TerminalM α} {value : α} (h : Reads ws action value) :
    OnlyMatches ws action :=
  ⟨value, [], h, by simp⟩

theorem pure (value : α) : OnlyMatches ws (Pure.pure value) :=
  of_reads (Reads.pure value)

theorem bind {action : TerminalM α} {next : α → TerminalM β} (haction : OnlyMatches ws action)
    (hnext : ∀ value, OnlyMatches ws (next value)) : OnlyMatches ws (action >>= next) := by
  obtain ⟨value, events, htells, hevents⟩ := haction
  obtain ⟨result, more, htellsMore, hmore⟩ := hnext value
  exact ⟨result, events ++ more, htells.bind htellsMore,
    List.forall_mem_append.mpr ⟨hevents, hmore⟩⟩

theorem log {event : Event} (h : event.IsOfMatching) : OnlyMatches ws (log event) :=
  ⟨(), [event], Tells.log event, by simpa using h⟩

theorem logAll {events : List Event} (h : ∀ event ∈ events, event.IsOfMatching) :
    OnlyMatches ws (logAll events) :=
  ⟨(), events, Tells.logAll events, h⟩

end OnlyMatches

/-- Whether an action with a folder of packs only reads and logs events of matching. -/
def OnlyMatchesPacks (ws : Workspace) (action : StateT PackFolder TerminalM α) : Prop :=
  ∀ folder, OnlyMatches ws (action folder)

namespace OnlyMatchesPacks

theorem pure (value : α) :
    OnlyMatchesPacks ws (Pure.pure value : StateT PackFolder TerminalM α) :=
  fun _ => OnlyMatches.pure _

theorem bind {action : StateT PackFolder TerminalM α} {next : α → StateT PackFolder TerminalM β}
    (haction : OnlyMatchesPacks ws action) (hnext : ∀ value, OnlyMatchesPacks ws (next value)) :
    OnlyMatchesPacks ws (action >>= next) :=
  fun folder => (haction folder).bind fun result => hnext result.1 result.2

theorem log {event : Event} (h : event.target ∈ [PackFolder.target, Catalog.target, matchTarget]) :
    OnlyMatchesPacks ws (log event : StateT PackFolder TerminalM Unit) :=
  fun _ => (OnlyMatches.log (.inl h)).bind fun _ => OnlyMatches.pure _

end OnlyMatchesPacks

variable {readFile : String → TerminalM (Except FileFailure String)}
  (hread : ∀ name, OnlyMatches ws (readFile name))

include hread

theorem PackFolder.onlyMatches_documents (folder : PackFolder) (pack : String) :
    OnlyMatches ws (documents readFile folder pack) := by
  unfold documents
  split
  case isFalse => exact OnlyMatches.pure _
  case isTrue =>
    split
    case h_1 => exact OnlyMatches.pure _
    case h_2 =>
      refine (hread _).bind fun content => ?_
      split
      case h_1 =>
        exact (OnlyMatches.log (.inl List.mem_cons_self)).bind fun _ => OnlyMatches.pure _
      case h_2 => exact OnlyMatches.pure _

theorem PackFolder.onlyMatchesPacks_index (pack : String) :
    OnlyMatchesPacks ws ((compendium readFile).index pack) := by
  refine fun folder => (onlyMatches_documents hread folder pack).bind fun found => ?_
  obtain ⟨result, folder⟩ := found
  cases result with
  | error failure => exact OnlyMatches.pure _
  | ok documents =>
      refine (OnlyMatches.logAll fun event hevent => .inl ?_).bind fun _ => OnlyMatches.pure _
      obtain ⟨document, -, rfl⟩ := List.mem_map.mp hevent
      exact List.mem_cons_self

theorem PackFolder.onlyMatchesPacks_entry (pack id : String) :
    OnlyMatchesPacks ws ((compendium readFile).entry pack id) :=
  fun folder => (onlyMatches_documents hread folder pack).bind fun _ => OnlyMatches.pure _

namespace Catalog

theorem onlyMatchesPacks_populateKinds (catalog : Catalog) (kinds : List ItemKind) :
    OnlyMatchesPacks ws (populateKinds (PackFolder.compendium readFile) catalog kinds) := by
  induction kinds generalizing catalog with
  | nil => exact OnlyMatchesPacks.pure catalog
  | cons kind rest ih =>
      unfold populateKinds
      split
      case isTrue => exact ih catalog
      case isFalse =>
        refine (PackFolder.onlyMatchesPacks_index hread _).bind fun result => ?_
        split
        case h_1 => exact .bind (.log (by simp [indexEvent])) fun _ => ih _
        case h_2 => exact .bind (.log (by simp [unavailableEvent])) fun _ => ih _

theorem onlyMatchesPacks_populate (catalog : Catalog) :
    OnlyMatchesPacks ws (catalog.populate (PackFolder.compendium readFile)) :=
  (onlyMatchesPacks_populateKinds hread catalog packOrder).bind fun _ =>
    .bind (.log (by simp [populatedEvent])) fun _ => .pure _

theorem onlyMatchesPacks_matchItem (catalog : Catalog) (item : Item) :
    OnlyMatchesPacks ws (catalog.matchItem (PackFolder.compendium readFile) item) := by
  unfold matchItem
  split
  case h_1 => exact OnlyMatchesPacks.pure _
  case h_2 =>
    refine (PackFolder.onlyMatchesPacks_entry hread _ _).bind fun result => ?_
    split <;> exact OnlyMatchesPacks.pure _

theorem onlyMatchesPacks_outcomes (catalog : Catalog) (items : List Item) :
    OnlyMatchesPacks ws (catalog.outcomes (PackFolder.compendium readFile) items) := by
  induction items with
  | nil => exact OnlyMatchesPacks.pure []
  | cons item rest ih =>
      refine OnlyMatchesPacks.bind ?_ fun first => ih.bind fun _ => OnlyMatchesPacks.pure _
      refine (onlyMatchesPacks_matchItem hread catalog item).bind fun result => ?_
      split
      case h_1 => exact .pure _
      case h_2 => exact .bind (.log (by simp [Item.noMatchEvent])) fun _ => .pure _
      case h_3 => exact .bind (.log (by simp [Item.failureEvent])) fun _ => .pure _

theorem onlyMatchesPacks_matchItems (catalog : Catalog) (items : List Item) :
    OnlyMatchesPacks ws (catalog.matchItems (PackFolder.compendium readFile) items) :=
  (onlyMatchesPacks_outcomes hread catalog items).bind fun _ =>
    .bind (.log (by simp [matchedEvent])) fun _ => .pure _

end Catalog

end Matching

end SheetImport
