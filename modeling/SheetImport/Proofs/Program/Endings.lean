import SheetImport.Proofs.Program.Runs

/-!
# How runs end

A run ends with a code, with what it has printed and with a workspace.  It is told here when a plan
holds, which file it writes, and what is printed for it besides events of the log.
-/

namespace SheetImport

/-! ## What is seen of a run -/

/-- How a run ends: with a code and the text of a failure, with what has been printed and with a
workspace. -/
structure Ending where
  code : UInt32
  errorText : String
  printed : List Printed
  workspace : Workspace

namespace Workspace

/-- How a run in a workspace ends.  Nothing has been printed before. -/
def ending (ws : Workspace) (buildDirectory : String) (filter? : String → Option LogFilter) :
    Ending :=
  let (result, terminal) :=
    Program.run (TerminalM.host buildDirectory filter?) ⟨ws, .silent, []⟩
  ⟨Program.code result, Program.errorText result, terminal.printed, terminal.workspace⟩

/-- Whether the variables are in order and the export that they name can be imported as they say. -/
structure Imports (ws : Workspace) (buildDirectory : String) (settings : Settings)
    (result : Imported) : Prop where
  configured : settings.AreFor (ws.valueOf? buildDirectory)
  imported : ∃ format text members, Registry.builtIn.get? settings.formatId = some format ∧
    (ws.readBytes settings.input).bind textOfBytes = .ok text ∧
    Json.parse? text = some (.object members) ∧
    format.run (Sheet.ofJson (.object members)).source = .ok result

/-- Whether a result can be written where the settings say. -/
def CanWrite (ws : Workspace) (settings : Settings) (result : Imported) : Prop :=
  ∃ next, ws.writeText (Program.resultPath settings result) result.fileText = .ok next

/-- Whether a workspace has changed at one place, where some bytes are now, or not at all. -/
def Changes (ws : Workspace) (written : Option (List String × ByteArray)) (next : Workspace) :
    Prop :=
  match written with
  | none => next = ws
  | some (place, bytes) => ws.Writes place bytes next

end Workspace

def Printed.line? : Printed → Option String
  | .line s => some s
  | .event _ => none

/-- Whether just some lines have been printed and besides them nothing but events of the log that a
filter lets through. -/
structure Prints (filter : LogFilter) (lines : List String) (printed : List Printed) : Prop where
  lines : printed.filterMap Printed.line? = lines
  events : ∀ event, .event event ∈ printed → filter event

namespace Prints

variable {filter : LogFilter} {lines : List String} {printed : List Printed}

/-- Where no event is let through, nothing is printed but the lines. -/
theorem eq_lines (h : Prints filter lines printed) (hsilent : ∀ event, filter event = false) :
    printed = lines.map .line := by
  obtain ⟨rfl, hevents⟩ := h
  induction printed with
  | nil => rfl
  | cons first rest ih =>
      have hrest := ih fun event hevent => hevents event (List.mem_cons_of_mem _ hevent)
      cases first with
      | line s => exact congrArg (Printed.line s :: ·) hrest
      | event event => simpa [hsilent] using hevents event List.mem_cons_self

theorem nil (filter : LogFilter) : Prints filter [] [] :=
  ⟨rfl, by simp⟩

theorem append_line (h : Prints filter lines printed) (s : String) :
    Prints filter (lines ++ [s]) (printed ++ [.line s]) := by
  refine ⟨by rw [List.filterMap_append, h.lines]; rfl, fun event hevent => h.events event ?_⟩
  simpa using hevent

theorem tell {terminal : Terminal} (h : Prints terminal.filter lines terminal.printed)
    (events : List Event) : Prints terminal.filter lines (terminal.tell events).printed := by
  constructor
  · have hnone : ((events.filter terminal.filter).map Printed.event).filterMap Printed.line? =
        [] := by
      simp [List.filterMap_eq_nil_iff, Printed.line?]
    rw [Terminal.tell, List.filterMap_append, hnone, List.append_nil, h.lines]
  · intro event hevent
    rcases List.mem_append.mp hevent with hevent | hevent
    · exact h.events event hevent
    · obtain ⟨other, hother, heq⟩ := List.mem_map.mp hevent
      cases heq
      exact (List.mem_filter.mp hother).2

end Prints

namespace Program

/-! ## Imports -/

theorem load_eq_ok_iff {content : Except FileFailure String} {sheet : Sheet} :
    Sheet.load content = .ok sheet ↔ ∃ text members, content = .ok text ∧
      Json.parse? text = some (.object members) ∧ sheet = Sheet.ofJson (.object members) := by
  constructor
  · intro h
    cases content with
    | error failure => cases h
    | ok text =>
        simp only [Sheet.load, Sheet.ofText] at h
        split at h
        case h_1 members hparse =>
          cases h
          exact ⟨text, members, rfl, hparse, rfl⟩
        case h_2 => cases h
        case h_3 => cases h
  · rintro ⟨text, members, rfl, hparse, rfl⟩
    simp only [Sheet.load, Sheet.ofText, hparse]

theorem importOf_eq_ok_iff {formatId input : String} {content : Except FileFailure String}
    {result : Imported} :
    importOf formatId input content = .ok result ↔
      ∃ format text members, Registry.builtIn.get? formatId = some format ∧
        content = .ok text ∧ Json.parse? text = some (.object members) ∧
        format.run (Sheet.ofJson (.object members)).source = .ok result := by
  rw [importOf]
  constructor
  · intro h
    split at h
    case h_1 => cases h
    case h_2 format hformat =>
      split at h
      case h_1 => cases h
      case h_2 sheet hload =>
        obtain ⟨text, members, hcontent, hparse, rfl⟩ := load_eq_ok_iff.mp hload
        cases hrun : format.run (Sheet.ofJson (.object members)).source with
        | error e => simp [hrun, Except.mapError] at h
        | ok other =>
            rw [hrun] at h
            cases h
            exact ⟨format, text, members, hformat, hcontent, hparse, hrun⟩
  · rintro ⟨format, text, members, hformat, hcontent, hparse, hrun⟩
    have hload := load_eq_ok_iff.mpr ⟨text, members, hcontent, hparse, rfl⟩
    simp only [hformat, hload, hrun, Except.mapError]

variable {ws : Workspace} {buildDirectory : String}

theorem prepare_eq_ok_iff {settings : Settings} {result : Imported} :
    prepare ws buildDirectory = .ok (settings, result) ↔
      ws.Imports buildDirectory settings result := by
  rw [prepare]
  constructor
  · intro h
    split at h
    case h_1 => cases h
    case h_2 found hfound =>
      cases himport : importOf found.formatId found.input
          ((ws.readBytes found.input).bind textOfBytes) with
      | error e => simp [himport, Except.map] at h
      | ok imported =>
          rw [himport] at h
          cases h
          exact ⟨Settings.ofVariables_eq_ok_iff.mp hfound, importOf_eq_ok_iff.mp himport⟩
  · rintro ⟨hsettings, himported⟩
    simp only [Settings.ofVariables_eq_ok_iff.mpr hsettings, importOf_eq_ok_iff.mpr himported,
      Except.map]

/-! ## Failures -/

theorem importOf_ne_unassignable {formatId input : String} {content : Except FileFailure String}
    {name : String} : importOf formatId input content ≠ .error (.unassignable name) := by
  intro h
  rw [importOf] at h
  split at h
  case h_1 => cases h
  case h_2 format _ =>
    split at h
    case h_1 => cases h
    case h_2 sheet _ => cases hrun : format.run sheet.source <;> simp [hrun, Except.mapError] at h

theorem writingOf_ne_unassignable {settings : Settings} {result : Imported} {name : String} :
    writingOf ws settings result ≠ .error (.unassignable name) := by
  intro h
  rw [writingOf] at h
  split at h
  case isTrue => split at h <;> cases h
  case isFalse => cases h

theorem plan_ne_unassignable {name : String} :
    plan ws buildDirectory ≠ .error (.unassignable name) := by
  intro h
  rw [plan, prepare] at h
  split at h
  case h_1 => cases h
  case h_2 settings _ =>
    cases himport : importOf settings.formatId settings.input
        ((ws.readBytes settings.input).bind textOfBytes) with
    | error e =>
        rw [himport] at h
        cases h
        exact importOf_ne_unassignable himport
    | ok result =>
        rw [himport] at h
        exact writingOf_ne_unassignable h

/-- The failures of a plan are those that end a run with code one. -/
theorem code_of_plan_error {e : RunFailure} (h : plan ws buildDirectory = .error e) :
    code (.error e) = 1 := by
  cases e with
  | unassignable name => exact absurd h plan_ne_unassignable
  | _ => rfl

/-! ## Success -/

theorem canWrite_iff {settings : Settings} {result : Imported} :
    ws.CanWrite settings result ↔ ∃ place, ws.target (resultPath settings result) = .ok place := by
  rw [Workspace.CanWrite, ws.writeText_eq]
  cases ws.target (resultPath settings result) with
  | error failure => simp [Except.map]
  | ok place => simp [Except.map]

theorem plan_of_imports {settings : Settings} {result : Imported}
    (h : ws.Imports buildDirectory settings result) :
    plan ws buildDirectory = writingOf ws settings result := by
  rw [plan, prepare_eq_ok_iff.mpr h]
  rfl

theorem exists_writingOf_eq_ok_iff {settings : Settings} {result : Imported} :
    (∃ writing, writingOf ws settings result = .ok writing) ↔
      (settings.writes → ws.CanWrite settings result) := by
  rw [canWrite_iff, writingOf]
  by_cases hwrites : settings.writes
  · cases ws.target (resultPath settings result) <;> simp [hwrites]
  · simp [hwrites]

/-- A plan holds just when the import succeeds and its result can be written if it is to be. -/
theorem exists_plan_eq_ok_iff :
    (∃ writing, plan ws buildDirectory = .ok writing) ↔
      ∃ settings result, ws.Imports buildDirectory settings result ∧
        (settings.writes → ws.CanWrite settings result) := by
  constructor
  · rintro ⟨writing, hplan⟩
    cases hprepare : prepare ws buildDirectory with
    | error e => simp [plan, hprepare, Except.bind] at hplan
    | ok prepared =>
        have himports := prepare_eq_ok_iff.mp hprepare
        rw [plan_of_imports himports] at hplan
        exact ⟨_, _, himports, exists_writingOf_eq_ok_iff.mp ⟨writing, hplan⟩⟩
  · rintro ⟨settings, result, himports, hcan⟩
    rw [plan_of_imports himports]
    exact exists_writingOf_eq_ok_iff.mpr hcan

/-- A result that is written gets a file of its name in the output directory. -/
theorem writingOf_of_writes {settings : Settings} {result : Imported} (hwrites : settings.writes)
    {writing : Option Writing} (h : writingOf ws settings result = .ok writing) :
    ∃ directory, ws.LeadsToDirectory settings.outputDir directory ∧
      writing = some ⟨resultPath settings result, directory ++ [result.fileName],
        result.fileText.toUTF8⟩ := by
  rw [writingOf, if_pos hwrites] at h
  cases htarget : ws.target (resultPath settings result) with
  | error failure => simp [htarget] at h
  | ok place =>
      rw [htarget] at h
      cases h
      obtain ⟨directory, hdirectory, rfl⟩ := Workspace.locate_pathIn
        (fun hslash => (result.isFlatName_fileName _ hslash).1 rfl) result.head?_fileName
        (Workspace.locate_of_target htarget)
      exact ⟨directory, hdirectory, rfl⟩

end Program

/-! ## What a plan leaves behind -/

namespace Terminal

/-- The lines that are printed for a plan. -/
def linesFor : Except RunFailure (Option Program.Writing) → List String
  | .ok (some writing) => [writing.path]
  | _ => []

theorem filter_carryOut (terminal : Terminal)
    (plan : Except RunFailure (Option Program.Writing)) :
    (terminal.carryOut plan).filter = terminal.filter := by
  rcases plan with e | _ | writing <;> rfl

theorem prints_carryOut {terminal : Terminal}
    (h : Prints terminal.filter [] terminal.printed)
    (plan : Except RunFailure (Option Program.Writing)) :
    Prints terminal.filter (linesFor plan) (terminal.carryOut plan).printed := by
  rcases plan with e | _ | writing
  · exact h
  · exact h
  · exact (h.tell [Program.writeEvent writing.path]).append_line writing.path

/-- Whether two terminals show the same and go on with the same filter. -/
structure SameOutput (terminal other : Terminal) : Prop where
  filter : other.filter = terminal.filter
  printed : other.printed = terminal.printed

namespace SameOutput

variable {terminal other : Terminal}

theorem tell (h : terminal.SameOutput other) (events : List Event) :
    (terminal.tell events).SameOutput (other.tell events) :=
  ⟨h.filter, by rw [Terminal.tell, Terminal.tell, h.filter, h.printed]⟩

/-- What is printed for a plan does not depend on the workspace. -/
theorem carryOut (h : terminal.SameOutput other)
    (plan : Except RunFailure (Option Program.Writing)) :
    (terminal.carryOut plan).SameOutput (other.carryOut plan) := by
  rcases plan with e | _ | writing
  · exact h
  · exact h
  · exact ⟨h.filter, congrArg (· ++ [Printed.line writing.path])
      (h.tell [Program.writeEvent writing.path]).printed⟩

end SameOutput

theorem exists_changes_carryOut (terminal other : Terminal)
    (plan : Except RunFailure (Option Program.Writing)) :
    ∃ written, terminal.workspace.Changes written (terminal.carryOut plan).workspace ∧
      other.workspace.Changes written (other.carryOut plan).workspace := by
  rcases plan with e | _ | writing
  · exact ⟨none, rfl, rfl⟩
  · exact ⟨none, rfl, rfl⟩
  · exact ⟨some (writing.place, writing.bytes), terminal.workspace.writes_put _ _,
      other.workspace.writes_put _ _⟩

end Terminal

end SheetImport
