import SheetImport.Proofs.EnvironmentFile.Plain
import SheetImport.Proofs.Program.Telling
import SheetImport.Proofs.Text.Trimming

/-!
# The variables of a run

A run takes the values of its variables from the workspace and from the environment files there.  If
these are plain, a variable that is set has its own value and any other the first that is assigned
to it.  What the settings of the run are for these values is said by rules.
-/

namespace SheetImport

/-! ## Variables -/

namespace Workspace

/-- The path of the first environment file in some directories, as far as these can be searched. -/
def nearestIn (ws : Workspace) : List String → Option String
  | [] => none
  | directory :: rest =>
      match ws.isFile (pathIn directory Program.environmentFile) with
      | .ok true => some (pathIn directory Program.environmentFile)
      | .ok false => nearestIn ws rest
      | .error .notFound => nearestIn ws rest
      | .error _ => none

/-- The paths of the environment files: two for the sources that the program was built from, and the
nearest one at or above the working directory. -/
def environmentPaths (ws : Workspace) (buildDirectory : String) : List String :=
  let sources := pathIn (pathIn buildDirectory "..") ".."
  [pathIn sources Program.localEnvironmentFile, pathIn sources Program.environmentFile] ++
    (ws.nearestIn (Program.directoriesUp ws.workingDirectory)).toList

/-- The assignments of a file; none if it cannot be read. -/
def assignmentsAt (ws : Workspace) (path : String) : List EnvironmentFile.Assignment :=
  match ws.readBytes path with
  | .ok bytes => EnvironmentFile.assignments bytes
  | .error _ => []

/-- The assignments of all environment files, in the order of the files. -/
def assignments (ws : Workspace) (buildDirectory : String) : List EnvironmentFile.Assignment :=
  (ws.environmentPaths buildDirectory).flatMap ws.assignmentsAt

/-- The value of a variable: the one that is set, or else the first one that is assigned. -/
def valueOf? (ws : Workspace) (buildDirectory name : String) : Option String :=
  (Keyed.get? ws.environment name).or
    (EnvironmentFile.first? (ws.assignments buildDirectory) name)

/-- The filter for the log of a run: the one that is asked for, if any, or else the one that lets all
events of the program through except those of level debug. -/
def logFilter (ws : Workspace) (buildDirectory : String) (filter? : String → Option LogFilter) :
    LogFilter :=
  ((ws.valueOf? buildDirectory "RUST_LOG").bind filter?).getD fun event =>
    "pcimport_engine".toList <+: event.target.toList ∧ event.level ≠ .debug

theorem logFilter_eq (ws : Workspace) (buildDirectory : String)
    (filter? : String → Option LogFilter) :
    ws.logFilter buildDirectory filter? =
      Program.logFilter filter? (ws.valueOf? buildDirectory) := by
  have hstandard : (fun event : Event => decide ("pcimport_engine".toList <+: event.target.toList ∧
      event.level ≠ .debug)) = LogFilter.standard := by
    funext event
    rw [LogFilter.standard, Bool.eq_iff_iff, decide_eq_true_iff, Bool.and_eq_true,
      List.isPrefixOf_iff_prefix, bne_iff_ne]
    rfl
  rw [logFilter, hstandard]
  rfl

end Workspace

namespace Program

/-- The variables among some names that are set. -/
def setAmong (environment : Keyed String) (names : List String) : Keyed String :=
  names.filterMap fun name => (Keyed.get? environment name).map (name, ·)

theorem setAmong_cons (environment : Keyed String) (name : String) (rest : List String) :
    setAmong environment (name :: rest) = match Keyed.get? environment name with
      | some value => (name, value) :: setAmong environment rest
      | none => setAmong environment rest := by
  rw [setAmong, List.filterMap_cons]
  cases Keyed.get? environment name <;> rfl

theorem get?_setAmong (environment : Keyed String) (names : List String) (name : String) :
    Keyed.get? (setAmong environment names) name =
      if name ∈ names then Keyed.get? environment name else none := by
  induction names with
  | nil => rfl
  | cons first rest ih =>
      rw [setAmong_cons]
      by_cases hname : first = name
      · subst hname
        cases hvalue : Keyed.get? environment first with
        | some value => simp [Keyed.get?]
        | none => simp [ih, hvalue]
      · cases hvalue : Keyed.get? environment first <;>
          simp [Keyed.get?, ih, hname, Ne.symm hname]

section Environment

variable (buildDirectory : String) (filter? : String → Option LogFilter) (ws : Workspace)

theorem reads_setVariables (names : List String) :
    Reads ws (setVariables (TerminalM.host buildDirectory filter?) names)
      (setAmong ws.environment names) := by
  induction names with
  | nil => exact Reads.pure _
  | cons name rest ih =>
      refine (Reads.ask fun ws => Keyed.get? ws.environment name).bind ?_
      refine ih.bind ?_
      rw [setAmong_cons]
      cases Keyed.get? ws.environment name <;> exact Reads.pure _

theorem reads_findEnvironmentFile (directories : List String) :
    Reads ws (findEnvironmentFile (TerminalM.host buildDirectory filter?) directories)
      (ws.nearestIn directories) := by
  induction directories with
  | nil => exact Reads.pure _
  | cons directory rest ih =>
      refine (Reads.ask fun ws => ws.isFile (pathIn directory environmentFile)).bind ?_
      rw [Workspace.nearestIn]
      cases ws.isFile (pathIn directory environmentFile) with
      | ok found => cases found <;> first | exact ih | exact Reads.pure _
      | error failure => cases failure <;> first | exact ih | exact Reads.pure _

theorem reads_environmentPaths :
    Reads ws (environmentPaths (TerminalM.host buildDirectory filter?))
      (ws.environmentPaths buildDirectory) := by
  refine (Reads.ask fun ws => Except.ok ws.workingDirectory).bind ?_
  exact (reads_findEnvironmentFile buildDirectory filter? ws _).bind (Reads.pure _)

theorem reads_assignmentsOf (paths : List String) :
    Reads ws (assignmentsOf (TerminalM.host buildDirectory filter?) paths)
      (paths.flatMap ws.assignmentsAt) := by
  induction paths with
  | nil => exact Reads.pure _
  | cons path rest ih =>
      exact (Reads.ask fun ws => ws.readBytes path).bind (ih.bind (Reads.pure _))

/-- The assignments are carried out on top of the variables that are set. -/
theorem reads_environment : Reads ws (environment (TerminalM.host buildDirectory filter?))
    ((EnvironmentFile.assign
      (setAmong ws.environment (filterVariable :: Settings.variableNames ++
        (ws.assignments buildDirectory).flatMap EnvironmentFile.Assignment.names))
      (ws.assignments buildDirectory)).mapError .unassignable) := by
  refine (reads_environmentPaths buildDirectory filter? ws).bind ?_
  refine (reads_assignmentsOf buildDirectory filter? ws _).bind ?_
  exact (reads_setVariables buildDirectory filter? ws _).bind (Reads.pure _)

variable {buildDirectory ws}

/-- With plain environment files every variable that matters has its value. -/
theorem exists_reads_environment
    (hplain : ∀ assignment ∈ ws.assignments buildDirectory, assignment.IsPlain) :
    ∃ set, Reads ws (environment (TerminalM.host buildDirectory filter?)) (.ok set) ∧
      ∀ name ∈ filterVariable :: Settings.variableNames,
        Keyed.get? set name = ws.valueOf? buildDirectory name := by
  obtain ⟨set, hset, hget⟩ := EnvironmentFile.assign_of_isPlain hplain
    (setAmong ws.environment (filterVariable :: Settings.variableNames ++
      (ws.assignments buildDirectory).flatMap EnvironmentFile.Assignment.names))
  have hreads := reads_environment buildDirectory filter? ws
  rw [hset] at hreads
  refine ⟨set, hreads, fun name hname => ?_⟩
  rw [hget, get?_setAmong, if_pos (List.mem_append_left _ hname), Workspace.valueOf?]

end Environment

end Program

/-! ## Settings -/

namespace Settings

/-- Whether a text says yes or no: one of a few words, in any case and with white space around it. -/
inductive Says (value : String) : Bool → Prop
  | yes {word : String} (htrims : Text.Trims value word)
      (hword : word.toList.map Char.toLower ∈ ["1", "true", "yes", "on"].map String.toList) :
      Says value true
  | no {word : String} (htrims : Text.Trims value word)
      (hword : word.toList.map Char.toLower ∈ ["0", "false", "no", "off"].map String.toList) :
      Says value false

/-- Whether settings are those that some variables ask for.  A sheet has to be named, by more than
white space, and what says whether to write has to say yes or no. -/
structure AreFor (settings : Settings) (valueOf : String → Option String) : Prop where
  input : valueOf "PCI_INPUT" = some settings.input
  named : ∃ c ∈ settings.input.toList, c.toNat ∉ Text.whiteSpaces
  writes : match valueOf "PCI_EXPORT" with
    | none => settings.writes = true
    | some value => Says value settings.writes
  formatId : settings.formatId = (valueOf "PCI_FORMAT").getD "mpmb"
  outputDir : settings.outputDir = (valueOf "PCI_OUTPUT_DIR").getD "."
  compendiumDir : settings.compendiumDir = valueOf "PCI_COMPENDIUM_DIR"
  spells : settings.packs.spells = (valueOf "PCI_SPELL_PACK").getD "dnd5e.spells"
  classes : settings.packs.classes = (valueOf "PCI_CLASS_PACK").getD "dnd5e.classes"

theorem asciiLowercase_mem_iff {word : String} {words : List String} :
    Text.asciiLowercase word ∈ words ↔
      word.toList.map Char.toLower ∈ words.map String.toList := by
  rw [Text.asciiLowercase, List.mem_map]
  constructor
  · exact fun hmem => ⟨_, hmem, String.toList_ofList⟩
  · rintro ⟨known, hmem, hknown⟩
    rwa [← hknown, String.ofList_toList]

theorem readSwitch?_eq_some_iff {value : String} {switch : Bool} :
    readSwitch? value = some switch ↔ Says value switch := by
  rw [readSwitch?]
  simp only [asciiLowercase_mem_iff]
  constructor
  · intro h
    split_ifs at h with hyes hno
    · cases h
      exact .yes (Text.trims_trim value) hyes
    · cases h
      exact .no (Text.trims_trim value) hno
  · rintro (⟨htrims, hword⟩ | ⟨htrims, hword⟩)
    · rw [← Text.trims_iff.mp htrims, if_pos hword]
    · rw [← Text.trims_iff.mp htrims, if_neg, if_pos hword]
      -- No word says both.
      simp only [List.map_cons, List.map_nil, List.mem_cons, List.not_mem_nil, or_false] at hword
      rcases hword with h | h | h | h <;> rw [h] <;> decide

theorem ofVariables_eq_ok_iff {valueOf : String → Option String} {settings : Settings} :
    ofVariables valueOf = .ok settings ↔ settings.AreFor valueOf := by
  rw [ofVariables]
  constructor
  · intro h
    split at h
    case h_1 => cases h
    case h_2 input hinput =>
      obtain ⟨hvalue, hnamed⟩ := Option.filter_eq_some_iff.mp hinput
      have hnamed := Text.trim_ne_empty_iff.mp (of_decide_eq_true hnamed)
      simp only at h
      split at h
      case h_1 hexport =>
        cases h
        exact ⟨hvalue, hnamed, by rw [hexport], rfl, rfl, rfl, rfl, rfl⟩
      case h_2 value hexport =>
        split at h
        case h_1 writes hwrites =>
          cases h
          exact ⟨hvalue, hnamed, by rw [hexport]; exact readSwitch?_eq_some_iff.mp hwrites,
            rfl, rfl, rfl, rfl, rfl⟩
        case h_2 => cases h
  · rintro ⟨hinput, hnamed, hwrites, hformat, hdirectory, hcompendium, hspells, hclasses⟩
    have hfilter : (valueOf "PCI_INPUT").filter (fun input => Text.trim input ≠ "") =
        some settings.input := by
      rw [hinput, Option.filter_some, if_pos (decide_eq_true (Text.trim_ne_empty_iff.mpr hnamed))]
    obtain ⟨formatId, input, outputDir, writes, compendiumDir, spells, classes⟩ := settings
    subst hformat hdirectory hcompendium hspells hclasses
    rw [hfilter]
    cases hexport : valueOf "PCI_EXPORT" with
    | none =>
        rw [hexport] at hwrites
        cases hwrites
        rfl
    | some value =>
        rw [hexport] at hwrites
        have hread := readSwitch?_eq_some_iff.mpr hwrites
        simp only [hread]
        rfl

/-- The settings depend on no other variables than those that are asked for. -/
theorem ofVariables_congr {valueOf other : String → Option String}
    (h : ∀ name ∈ variableNames, valueOf name = other name) :
    ofVariables valueOf = ofVariables other := by
  simp only [variableNames, List.forall_mem_cons] at h
  obtain ⟨hinput, hexport, hformat, hdirectory, hcompendium, hspells, hclasses, -⟩ := h
  simp only [ofVariables, hinput, hexport, hformat, hdirectory, hcompendium, hspells, hclasses]

/-- The variables for packs decide about nothing but matching. -/
theorem ofVariables_of_agree {valueOf other : String → Option String}
    (h : ∀ name ∈ ["PCI_INPUT", "PCI_EXPORT", "PCI_FORMAT", "PCI_OUTPUT_DIR"],
      other name = valueOf name) :
    ∃ compendiumDir packs, ofVariables other =
      (ofVariables valueOf).map fun settings => { settings with compendiumDir, packs } := by
  simp only [List.forall_mem_cons] at h
  obtain ⟨hinput, hexport, hformat, hdirectory, -⟩ := h
  refine ⟨other "PCI_COMPENDIUM_DIR",
    ⟨(other "PCI_SPELL_PACK").getD PackNames.standard.spells,
      (other "PCI_CLASS_PACK").getD PackNames.standard.classes⟩, ?_⟩
  simp only [ofVariables, hinput, hexport, hformat, hdirectory]
  split
  case h_1 => rfl
  case h_2 =>
    split
    case h_1 => rfl
    case h_2 => split <;> rfl

end Settings

end SheetImport
