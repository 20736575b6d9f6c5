import SheetImport.Proofs.Program.Endings

/-!
# Runs are all or nothing

A run succeeds just when all of its stages do, and only then is anything written: one file directly in
the output directory, or none if the result is not to be written.  The path of that file is the only
line that is printed.  Which packs there are and what is in them can be told from nothing but the
events of matching, which come last in the log.
-/

namespace SheetImport

/-! ## Runs -/

/-- Whether what a run in a workspace ends in is all or nothing. -/
structure Workspace.EndsAtomically (ws : Workspace) (buildDirectory : String) (filter : LogFilter)
    (ending : Ending) : Prop where
  code : ending.code = 0 ∨ ending.code = 1
  /-- Success takes settings in order, an export that can be imported and, if the result is to be
  written, a place for it. -/
  success_iff : ending.code = 0 ↔ ∃ settings result, ws.Imports buildDirectory settings result ∧
    (settings.writes → ws.CanWrite settings result)
  failure : ending.code = 1 → Prints filter [] ending.printed ∧ ending.workspace = ws
  /-- One file is written, directly in the output directory, or none is. -/
  success : ∀ settings result, ws.Imports buildDirectory settings result → ending.code = 0 →
    if settings.writes then
      IsFlatName result.fileName ∧
        Prints filter [Program.resultPath settings result] ending.printed ∧
        ∃ directory, ws.LeadsToDirectory settings.outputDir directory ∧
          ws.Writes (directory ++ [result.fileName]) result.fileText.toUTF8 ending.workspace
    else Prints filter [] ending.printed ∧ ending.workspace = ws

/-- Whether two runs, each in a workspace of its own, end the same way and differ in nothing but the
events of matching, which come last. -/
structure DifferInMatching (ws other : Workspace) (ending otherEnding : Ending) : Prop where
  code : otherEnding.code = ending.code
  errorText : otherEnding.errorText = ending.errorText
  changes : ∃ written, ws.Changes written ending.workspace ∧
    other.Changes written otherEnding.workspace
  printed : ∃ common first second, ending.printed = common ++ first ∧
    otherEnding.printed = common ++ second ∧
    ∀ printed ∈ first ++ second, ∃ event, printed = .event event ∧ event.IsOfMatching

namespace Program

variable {buildDirectory : String} {filter? : String → Option LogFilter} {ws : Workspace}

theorem ending_eq {result : Except RunFailure Unit} {terminal : Terminal}
    (h : run (TerminalM.host buildDirectory filter?) ⟨ws, .silent, []⟩ = (result, terminal)) :
    ws.ending buildDirectory filter? =
      ⟨code result, errorText result, terminal.printed, terminal.workspace⟩ := by
  rw [Workspace.ending, h]

theorem prints_behind (buildDirectory : String) (filter? : String → Option LogFilter)
    (ws : Workspace) (before : List Event) (plan : Except RunFailure (Option Writing))
    (after : List Event) :
    Prints (ws.logFilter buildDirectory filter?) (Terminal.linesFor plan)
      (behind buildDirectory filter? ws before plan after).printed := by
  have hbegun : Prints (begun buildDirectory filter? ws).filter []
      (begun buildDirectory filter? ws).printed := Prints.nil _
  have hbefore : Prints ((begun buildDirectory filter? ws).tell before).filter []
      ((begun buildDirectory filter? ws).tell before).printed := hbegun.tell before
  have hplan := Terminal.prints_carryOut hbefore plan
  rw [← Terminal.filter_carryOut _ plan] at hplan
  have hafter := hplan.tell after
  rwa [Terminal.filter_carryOut] at hafter

theorem endsAtomically_of_run {before after : List Event}
    (hrun : run (TerminalM.host buildDirectory filter?) ⟨ws, .silent, []⟩ =
      ((plan ws buildDirectory).map fun _ => (),
        behind buildDirectory filter? ws before (plan ws buildDirectory) after)) :
    ws.EndsAtomically buildDirectory (ws.logFilter buildDirectory filter?)
      (ws.ending buildDirectory filter?) := by
  have hprints := prints_behind buildDirectory filter? ws before (plan ws buildDirectory) after
  rw [ending_eq hrun]
  cases hplan : plan ws buildDirectory with
  | error e =>
      have hcode := code_of_plan_error hplan
      have hfails : ¬∃ settings result, ws.Imports buildDirectory settings result ∧
          (settings.writes → ws.CanWrite settings result) := by
        simp [← exists_plan_eq_ok_iff, hplan]
      rw [hplan] at hprints
      refine ⟨.inr hcode, iff_of_false ?_ hfails, fun _ => ⟨hprints, rfl⟩, ?_⟩
      · exact fun hzero => absurd (hcode.symm.trans hzero) (by decide)
      · exact fun _ _ _ hzero => absurd (hcode.symm.trans hzero) (by decide)
  | ok writing =>
      rw [hplan] at hprints
      refine ⟨.inl rfl, iff_of_true rfl (exists_plan_eq_ok_iff.mp ⟨writing, hplan⟩),
        fun hone => absurd hone (by simp [Except.map, code]), fun settings result himports _ => ?_⟩
      rw [plan_of_imports himports] at hplan
      split
      case isTrue hwrites =>
        obtain ⟨directory, hdirectory, rfl⟩ := writingOf_of_writes hwrites hplan
        exact ⟨result.isFlatName_fileName, hprints, directory, hdirectory, ws.writes_put _ _⟩
      case isFalse hwrites =>
        rw [writingOf, if_neg hwrites] at hplan
        cases hplan
        exact ⟨hprints, rfl⟩

theorem isOfMatching_of_mem_shown {events : List Event} (h : ∀ event ∈ events, event.IsOfMatching)
    (filter : LogFilter) :
    ∀ printed ∈ (events.filter filter).map Printed.event,
      ∃ event, printed = .event event ∧ event.IsOfMatching := by
  intro printed hprinted
  obtain ⟨event, hevent, rfl⟩ := List.mem_map.mp hprinted
  exact ⟨event, rfl, h event (List.mem_of_mem_filter hevent)⟩

/-- Up to the events of matching, the same is printed in workspaces with the same filter. -/
theorem exists_printed_behind_eq {other : Workspace}
    (hfilter : other.logFilter buildDirectory filter? = ws.logFilter buildDirectory filter?)
    (before : List Event) (plan : Except RunFailure (Option Writing))
    {after afterOther : List Event} (hafter : ∀ event ∈ after, event.IsOfMatching)
    (hafterOther : ∀ event ∈ afterOther, event.IsOfMatching) :
    ∃ common first second,
      (behind buildDirectory filter? ws before plan after).printed = common ++ first ∧
      (behind buildDirectory filter? other before plan afterOther).printed = common ++ second ∧
      ∀ printed ∈ first ++ second, ∃ event, printed = .event event ∧ event.IsOfMatching := by
  -- Both runs begin with the same filter and nothing printed, so they print the same up to `after`.
  have hbegun : (begun buildDirectory filter? ws).SameOutput (begun buildDirectory filter? other) :=
    ⟨hfilter, rfl⟩
  have hcommon := ((hbegun.tell before).carryOut plan).printed
  exact ⟨_, _, _, rfl, congrArg (· ++ _) hcommon, List.forall_mem_append.mpr
    ⟨isOfMatching_of_mem_shown hafter _, isOfMatching_of_mem_shown hafterOther _⟩⟩

/-- With plain environment files, a run is all or nothing.  It ends with code zero just when its
settings are in order, its export can be imported and the result can be written, if it is to be.
Otherwise it ends with code one, no line is printed and the workspace is as it was.  With code zero
it has written one file, which lies directly in the output directory, and printed the path of that
file, or it has done neither if nothing was to be written.  Besides that only events of the log are
printed.  What only matching reads makes no difference to any of that but the last events. -/
theorem run_atomic (buildDirectory : String) (filter? : String → Option LogFilter) (ws : Workspace)
    (hplain : ∀ assignment ∈ ws.assignments buildDirectory, assignment.IsPlain) :
    ws.EndsAtomically buildDirectory (ws.logFilter buildDirectory filter?)
        (ws.ending buildDirectory filter?) ∧
      ∀ other : Workspace,
        (∀ assignment ∈ other.assignments buildDirectory, assignment.IsPlain) →
        ws.DiffersInPacks other buildDirectory →
          DifferInMatching ws other (ws.ending buildDirectory filter?)
            (other.ending buildDirectory filter?) := by
  obtain ⟨before, hruns⟩ := exists_run_eq buildDirectory filter? ws
  obtain ⟨after, hafter, hrun⟩ := hruns ws hplain (.refl ws buildDirectory)
  refine ⟨endsAtomically_of_run hrun, fun other hother hdiffers => ?_⟩
  obtain ⟨afterOther, hafterOther, hrunOther⟩ := hruns other hother hdiffers
  have hfilter : other.logFilter buildDirectory filter? = ws.logFilter buildDirectory filter? := by
    have hvalue : other.valueOf? buildDirectory "RUST_LOG" = ws.valueOf? buildDirectory "RUST_LOG" :=
      hdiffers.values "RUST_LOG" List.mem_cons_self
    rw [Workspace.logFilter, Workspace.logFilter, hvalue]
  rw [ending_eq hrun, ending_eq hrunOther]
  exact ⟨rfl, rfl, Terminal.exists_changes_carryOut _ _ _,
    exists_printed_behind_eq hfilter before _ hafter hafterOther⟩

/-- Filters of which only the one that lets nothing through is known. -/
def offFilter? (text : String) : Option LogFilter :=
  if text = "off" then some .silent else none

/-- A workspace with an empty form that only an environment file above the working directory names. -/
def emptyForm : Workspace where
  environment := [("PCI_FORMAT", "mpmb"), ("RUST_LOG", "off")]
  workingDirectory := ["home", "play"]
  directories := [["home", "play"]]
  files := [(["home", ".env"], "PCI_INPUT=/data/form.json".toUTF8),
    (["data", "form.json"], "{}".toUTF8)]

set_option maxRecDepth 10000 in
theorem assignments_emptyForm : emptyForm.assignments "/crates/engine" =
    EnvironmentFile.assignments "PCI_INPUT=/data/form.json".toUTF8 := by
  have hpaths : emptyForm.environmentPaths "/crates/engine" =
      ["/crates/engine/../../.env.local", "/crates/engine/../../.env", "/home/.env"] := by
    rfl
  have hlocal : emptyForm.readBytes "/crates/engine/../../.env.local" = .error .notFound := by
    rfl
  have hsources : emptyForm.readBytes "/crates/engine/../../.env" = .error .notFound := by
    rfl
  have hnearest : emptyForm.readBytes "/home/.env" = .ok "PCI_INPUT=/data/form.json".toUTF8 := by
    rfl
  simp [Workspace.assignments, hpaths, Workspace.assignmentsAt, hlocal, hsources, hnearest]

theorem isPlain_emptyForm :
    ∀ assignment ∈ emptyForm.assignments "/crates/engine", assignment.IsPlain := by
  have hbytes : EnvironmentFile.arePlain "PCI_INPUT=/data/form.json".toUTF8.toList := by
    rw [EnvironmentFile.toList_eq_data]
    rfl
  rw [assignments_emptyForm]
  exact EnvironmentFile.isPlain_of_arePlain hbytes

theorem valueOf?_emptyForm : emptyForm.valueOf? "/crates/engine" = fun name =>
    (Keyed.get? emptyForm.environment name).or (EnvironmentFile.first?
      [⟨"PCI_INPUT", "/data/form.json".toList.map EnvironmentFile.Part.char⟩] name) := by
  have hassignments : emptyForm.assignments "/crates/engine" =
      [⟨"PCI_INPUT", "/data/form.json".toList.map EnvironmentFile.Part.char⟩] := by
    rw [assignments_emptyForm]
    simp only [EnvironmentFile.assignments, EnvironmentFile.entries, EnvironmentFile.textLines,
      EnvironmentFile.toList_eq_data]
    rfl
  funext name
  rw [Workspace.valueOf?, hassignments]

theorem configured_emptyForm :
    Settings.AreFor ⟨"mpmb", "/data/form.json", ".", true, none, .standard⟩
      (emptyForm.valueOf? "/crates/engine") := by
  rw [← Settings.ofVariables_eq_ok_iff, valueOf?_emptyForm]
  rfl

theorem logFilter_emptyForm : emptyForm.logFilter "/crates/engine" offFilter? = .silent := by
  rw [Workspace.logFilter, valueOf?_emptyForm]
  rfl

set_option maxRecDepth 10000 in
theorem imports_emptyForm : ∃ result,
    emptyForm.Imports "/crates/engine" ⟨"mpmb", "/data/form.json", ".", true, none, .standard⟩
      result ∧ result.fileName = "fvtt-unnamed.json" := by
  have hrun : (FormExport.format.run (Sheet.ofJson (.object [])).source).map Imported.fileName =
      .ok "fvtt-unnamed.json" := by
    rfl
  cases hresult : FormExport.format.run (Sheet.ofJson (.object [])).source with
  | error e => simp [hresult, Except.map] at hrun
  | ok result =>
      rw [hresult] at hrun
      exact ⟨result, ⟨configured_emptyForm, FormExport.format, "{}", [], rfl, rfl, rfl, hresult⟩,
        Except.ok.inj hrun⟩

/-- The same workspace with a directory of packs named. -/
def emptyFormWithPacks : Workspace :=
  { emptyForm with environment := ("PCI_COMPENDIUM_DIR", "packs") :: emptyForm.environment }

theorem samePlaces_emptyForm : emptyForm.SamePlaces emptyFormWithPacks :=
  ⟨rfl, rfl, rfl⟩

theorem differsInPacks_emptyForm :
    emptyForm.DiffersInPacks emptyFormWithPacks "/crates/engine" where
  places := samePlaces_emptyForm
  values := by
    intro name hname
    simp only [List.mem_cons, List.not_mem_nil, or_false] at hname
    rcases hname with rfl | rfl | rfl | rfl | rfl <;> rfl
  input _ _ := samePlaces_emptyForm.readBytes fun _ _ => rfl

theorem run_atomic_emptyForm :
    (∀ assignment ∈ emptyForm.assignments "/crates/engine", assignment.IsPlain) ∧
      (emptyForm.ending "/crates/engine" offFilter?).code = 0 ∧
      (emptyForm.ending "/crates/engine" offFilter?).printed = [.line "./fvtt-unnamed.json"] ∧
      (emptyFormWithPacks.ending "/crates/engine" offFilter?).code = 0 ∧
      ∃ directory bytes, emptyForm.Writes (directory ++ ["fvtt-unnamed.json"]) bytes
        (emptyForm.ending "/crates/engine" offFilter?).workspace := by
  obtain ⟨result, himports, hname⟩ := imports_emptyForm
  obtain ⟨hends, htwo⟩ := run_atomic "/crates/engine" offFilter? emptyForm isPlain_emptyForm
  have hwrite : emptyForm.CanWrite ⟨"mpmb", "/data/form.json", ".", true, none, .standard⟩
      result := by
    refine canWrite_iff.mpr ⟨["home", "play", "fvtt-unnamed.json"], ?_⟩
    rw [resultPath, hname]
    rfl
  have hcode := hends.success_iff.mpr ⟨_, result, himports, fun _ => hwrite⟩
  obtain ⟨-, hprints, directory, -, hwrites⟩ := hends.success _ result himports hcode
  rw [resultPath, hname, logFilter_emptyForm] at hprints
  rw [hname] at hwrites
  have hpacks := htwo emptyFormWithPacks isPlain_emptyForm differsInPacks_emptyForm
  exact ⟨isPlain_emptyForm, hcode, hprints.eq_lines fun _ => rfl, hpacks.code.trans hcode,
    directory, _, hwrites⟩

/-! ## Runs that end otherwise -/

theorem assignments_of_files_eq_nil {ws : Workspace} (h : ws.files = []) (buildDirectory : String) :
    ws.assignments buildDirectory = [] := by
  refine List.flatMap_eq_nil_iff.mpr fun path _ => ?_
  rw [Workspace.assignmentsAt, Workspace.readBytes]
  cases ws.locate path with
  | error failure => rfl
  | ok place => simp [Workspace.file?, h]

/-- A workspace without the form that is to be imported. -/
def missingForm : Workspace where
  environment := [("PCI_INPUT", "form.json")]
  workingDirectory := []
  directories := []
  files := []

theorem run_missingForm :
    run (TerminalM.host "/crates/engine" offFilter?) ⟨missingForm, .silent, []⟩ =
      (.error (.load "form.json" (.file .notFound)),
        ⟨missingForm, .standard, [.event (formatEvent FormExport.format)]⟩) := by
  have hassignments : missingForm.assignments "/crates/engine" = [] :=
    assignments_of_files_eq_nil rfl _
  have hvalue : missingForm.valueOf? "/crates/engine" =
      Keyed.get? [("PCI_INPUT", "form.json")] := by
    funext name
    rw [Workspace.valueOf?, hassignments]
    exact Option.or_none
  have hbegun : begun "/crates/engine" offFilter? missingForm = ⟨missingForm, .standard, []⟩ := by
    rw [begun, Workspace.logFilter_eq, hvalue]
    rfl
  rw [run_eq _ _ (by simp [hassignments]), hvalue, hbegun]
  rfl

/-- A workspace with an environment file that gives some variable a value with a NUL in it. -/
def unassignableFile : Workspace where
  environment := [("PCI_INPUT", "form.json")]
  workingDirectory := []
  directories := []
  files := [([".env"], "FOO=a\x00b".toUTF8), (["form.json"], "{}".toUTF8)]

set_option maxRecDepth 10000 in
theorem run_unassignableFile :
    run (TerminalM.host "/crates/engine" offFilter?) ⟨unassignableFile, .silent, []⟩ =
      (.error (.unassignable "FOO"), ⟨unassignableFile, .silent, []⟩) := by
  have hpaths : unassignableFile.environmentPaths "/crates/engine" =
      ["/crates/engine/../../.env.local", "/crates/engine/../../.env", "/.env"] := by
    rfl
  have hlocal : unassignableFile.readBytes "/crates/engine/../../.env.local" =
      .error .notFound := by
    rfl
  have hsources : unassignableFile.readBytes "/crates/engine/../../.env" = .error .notFound := by
    rfl
  have hnearest : unassignableFile.readBytes "/.env" = .ok "FOO=a\x00b".toUTF8 := by
    rfl
  have hassignments : unassignableFile.assignments "/crates/engine" =
      [⟨"FOO", "a\x00b".toList.map EnvironmentFile.Part.char⟩] := by
    simp only [Workspace.assignments, hpaths, Workspace.assignmentsAt, hlocal, hsources, hnearest,
      List.flatMap_cons, List.flatMap_nil, List.nil_append, List.append_nil,
      EnvironmentFile.assignments, EnvironmentFile.entries, EnvironmentFile.textLines,
      EnvironmentFile.toList_eq_data]
    rfl
  have henvironment := reads_environment "/crates/engine" offFilter? unassignableFile
    ⟨unassignableFile, .silent, []⟩ rfl
  rw [hassignments, Terminal.tell_nil] at henvironment
  rw [run, TerminalM.bind_eq henvironment]
  rfl

/-- A run that fails prints events of its log unless a filter keeps them back, and a run with a value
that cannot be assigned ends with a code of its own. -/
theorem endings_missingForm_unassignableFile :
    (missingForm.ending "/crates/engine" offFilter?).code = 1 ∧
      (missingForm.ending "/crates/engine" offFilter?).printed ≠ [] ∧
      (unassignableFile.ending "/crates/engine" offFilter?).code ≠ 0 ∧
      (unassignableFile.ending "/crates/engine" offFilter?).code ≠ 1 := by
  rw [ending_eq run_missingForm, ending_eq run_unassignableFile]
  exact ⟨rfl, List.cons_ne_nil _ _, by decide, by decide⟩

end Program

end SheetImport
