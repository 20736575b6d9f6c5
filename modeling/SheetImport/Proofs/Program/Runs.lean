import SheetImport.Proofs.Program.Paths
import SheetImport.Proofs.Program.Variables

/-!
# Runs in a workspace

What a run does is settled before anything is matched: it fails, or it writes one file or none.
Workspaces that differ in nothing but what matching reads settle it the same way, and the log is the
same up to there.
-/

namespace SheetImport

namespace Program

/-! ## Stages -/

/-- What importing an export with some content gives. -/
def importOf (formatId input : String) (content : Except FileFailure String) :
    Except RunFailure Imported :=
  match Registry.builtIn.get? formatId with
  | none => .error (.unknownFormat formatId)
  | some format =>
      match Sheet.load content with
      | .error e => .error (.load input e)
      | .ok sheet => (format.run sheet.source).mapError .importing

/-- The path that a result is written to. -/
def resultPath (settings : Settings) (result : Imported) : String :=
  pathIn settings.outputDir result.fileName

/-- What a run writes: the path that is printed for it, the place it leads to and the bytes. -/
structure Writing where
  path : String
  place : List String
  bytes : ByteArray

/-- What becomes of a result: it is written, which can fail, or it is not to be written. -/
def writingOf (ws : Workspace) (settings : Settings) (result : Imported) :
    Except RunFailure (Option Writing) :=
  if settings.writes then
    match ws.target (resultPath settings result) with
    | .ok place => .ok (some ⟨resultPath settings result, place, result.fileText.toUTF8⟩)
    | .error failure => .error (.writing failure)
  else .ok none

/-- What a run comes to before it writes: its settings and what they import. -/
def prepare (ws : Workspace) (buildDirectory : String) : Except RunFailure (Settings × Imported) :=
  match Settings.ofVariables (ws.valueOf? buildDirectory) with
  | .error e => .error (.settings e)
  | .ok settings =>
      (importOf settings.formatId settings.input
        ((ws.readBytes settings.input).bind textOfBytes)).map fun result => (settings, result)

/-- What a run comes to, matching left aside: it fails, or it writes one file or none. -/
def plan (ws : Workspace) (buildDirectory : String) : Except RunFailure (Option Writing) :=
  (prepare ws buildDirectory).bind fun prepared => writingOf ws prepared.1 prepared.2

end Program

/-- A terminal behind what a run comes to, matching left aside. -/
def Terminal.carryOut (terminal : Terminal) :
    Except RunFailure (Option Program.Writing) → Terminal
  | .ok (some writing) =>
      { terminal with
        workspace := terminal.workspace.put writing.place writing.bytes
        printed := (terminal.tell [Program.writeEvent writing.path]).printed ++
          [.line writing.path] }
  | _ => terminal

namespace Program

section Stages

variable (buildDirectory : String) (filter? : String → Option LogFilter)

theorem reads_readText (ws : Workspace) (path : String) :
    Reads ws ((TerminalM.host buildDirectory filter?).readText path)
      ((ws.readBytes path).bind textOfBytes) :=
  reads_of_eq fun _ hws => hws ▸ rfl

/-- The events of an import depend on nothing but the export and its format. -/
theorem exists_tells_importSheet (formatId input : String) (content : Except FileFailure String) :
    ∃ events, ∀ (ws : Workspace) (settings : Settings), settings.formatId = formatId →
      settings.input = input → (ws.readBytes input).bind textOfBytes = content →
      Tells ws (importSheet (TerminalM.host buildDirectory filter?) settings)
        (importOf formatId input content) events := by
  unfold importOf
  cases hformat : Registry.builtIn.get? formatId with
  | none =>
      refine ⟨[], ?_⟩
      rintro ws settings rfl - -
      rw [importSheet, hformat]
      exact Reads.pure _
  | some format =>
      cases hload : Sheet.load content with
      | error e =>
          refine ⟨formatEvent format :: [], ?_⟩
          rintro ws settings rfl rfl rfl
          rw [importSheet, hformat]
          refine (Tells.log _).bind ((reads_readText _ _ ws settings.input).bind ?_)
          rw [hload]
          exact Reads.pure _
      | ok sheet =>
          obtain ⟨events, htells⟩ := format.exists_tells_runLogged sheet.source
          refine ⟨formatEvent format :: loadEvent input sheet ::
            (events ++ ((format.run sheet.source).toOption.map importEvent).toList), ?_⟩
          rintro ws settings rfl rfl rfl
          rw [importSheet, hformat]
          refine (Tells.log _).bind ((reads_readText _ _ ws settings.input).bind ?_)
          rw [hload]
          refine (Tells.log _).bind ((htells ws).bind ?_)
          dsimp only
          cases format.run sheet.source with
          | error e => exact Reads.pure _
          | ok result => exact (Tells.log _).bind (Reads.pure _)

theorem onlyMatches_matchResult (ws : Workspace) (settings : Settings) (result : Imported) :
    OnlyMatches ws (matchResult (TerminalM.host buildDirectory filter?) settings result) := by
  unfold matchResult
  split
  case h_2 => exact .pure _
  case h_1 directory _ =>
    have hread (name : String) : OnlyMatches ws
        ((TerminalM.host buildDirectory filter?).readText (pathIn directory name)) :=
      .of_reads (reads_readText _ _ ws _)
    refine .bind (α := List Outcome) ?_ fun outcomes => .logAll fun event hevent => .inr ?_
    · have hmatching := (Catalog.onlyMatchesPacks_populate hread (.empty settings.packs)).bind
        fun catalog => Catalog.onlyMatchesPacks_matchItems hread catalog result.items
      exact (hmatching PackFolder.empty).bind fun _ => .pure _
    · obtain ⟨outcome, -, rfl⟩ := List.mem_map.mp hevent
      exact ⟨outcome.item, rfl⟩

theorem writeText_eq (path text : String) (terminal : Terminal) :
    (TerminalM.host buildDirectory filter?).writeText path text terminal =
      match terminal.workspace.target path with
      | .ok place =>
          (.ok (), { terminal with workspace := terminal.workspace.put place text.toUTF8 })
      | .error failure => (.error failure, terminal) := by
  simp only [TerminalM.host, terminal.workspace.writeText_eq]
  cases terminal.workspace.target path <;> rfl

theorem writeResult_eq (directory : String) (result : Imported) (terminal : Terminal) :
    writeResult (TerminalM.host buildDirectory filter?) directory result terminal =
      match terminal.workspace.target (pathIn directory result.fileName) with
      | .ok place =>
          (.ok (pathIn directory result.fileName),
            { terminal with
              workspace := terminal.workspace.put place result.fileText.toUTF8 }.tell
                [writeEvent (pathIn directory result.fileName)])
      | .error failure => (.error failure, terminal) := by
  have hwrite := writeText_eq buildDirectory filter? (pathIn directory result.fileName)
    result.fileText terminal
  cases htarget : terminal.workspace.target (pathIn directory result.fileName) with
  | error failure =>
      rw [htarget] at hwrite
      exact TerminalM.bind_eq hwrite
  | ok place =>
      rw [htarget] at hwrite
      exact (TerminalM.bind_eq hwrite).trans (TerminalM.bind_eq (Tells.log _ _ rfl))

/-- What becomes of a result does not depend on matching, which only adds events. -/
theorem exists_deliver_eq (settings : Settings) (result : Imported) (terminal : Terminal) :
    ∃ after, (∀ event ∈ after, event.IsOfMatching) ∧
      deliver (TerminalM.host buildDirectory filter?) settings result terminal =
        ((writingOf terminal.workspace settings result).map fun _ => (),
          (terminal.carryOut (writingOf terminal.workspace settings result)).tell after) := by
  have hmatch (terminal : Terminal) : ∃ after, (∀ event ∈ after, event.IsOfMatching) ∧
      matchResult (TerminalM.host buildDirectory filter?) settings result terminal =
        ((), terminal.tell after) := by
    obtain ⟨_, after, htells, hafter⟩ :=
      onlyMatches_matchResult buildDirectory filter? terminal.workspace settings result
    exact ⟨after, hafter, htells terminal rfl⟩
  rw [deliver, writingOf, resultPath]
  split
  case isFalse =>
    obtain ⟨after, hafter, hmatched⟩ := hmatch terminal
    exact ⟨after, hafter, TerminalM.bind_eq hmatched⟩
  case isTrue =>
    have hwrite := writeResult_eq buildDirectory filter? settings.outputDir result terminal
    cases htarget : terminal.workspace.target (pathIn settings.outputDir result.fileName) with
    | error failure =>
        rw [htarget] at hwrite
        refine ⟨[], by simp, (TerminalM.bind_eq hwrite).trans ?_⟩
        rw [Terminal.tell_nil]
        rfl
    | ok place =>
        rw [htarget] at hwrite
        obtain ⟨after, hafter, hmatched⟩ := hmatch (terminal.carryOut
          (.ok (some ⟨pathIn settings.outputDir result.fileName, place, result.fileText.toUTF8⟩)))
        refine ⟨after, hafter, (TerminalM.bind_eq hwrite).trans ?_⟩
        exact (TerminalM.bind_eq rfl).trans (TerminalM.bind_eq hmatched)

/-! ## Packs -/

end Stages

end Program

/-- Whether two workspaces differ at most in what matching reads: in the variables for packs and in
what is in other files than the export. -/
structure Workspace.DiffersInPacks (ws other : Workspace) (buildDirectory : String) : Prop where
  places : ws.SamePlaces other
  values : ∀ name ∈ ["RUST_LOG", "PCI_INPUT", "PCI_EXPORT", "PCI_FORMAT", "PCI_OUTPUT_DIR"],
    other.valueOf? buildDirectory name = ws.valueOf? buildDirectory name
  input : ∀ path, ws.valueOf? buildDirectory "PCI_INPUT" = some path →
    other.readBytes path = ws.readBytes path

theorem Workspace.DiffersInPacks.refl (ws : Workspace) (buildDirectory : String) :
    ws.DiffersInPacks ws buildDirectory :=
  ⟨⟨rfl, rfl, rfl⟩, fun _ _ => rfl, fun _ _ => rfl⟩

/-- The settings differ at most in those for packs. -/
theorem Workspace.DiffersInPacks.exists_settings_eq {ws other : Workspace} {buildDirectory : String}
    (h : ws.DiffersInPacks other buildDirectory) : ∃ compendiumDir packs,
      Settings.ofVariables (other.valueOf? buildDirectory) =
        (Settings.ofVariables (ws.valueOf? buildDirectory)).map fun settings =>
          { settings with compendiumDir, packs } :=
  Settings.ofVariables_of_agree fun name hname => h.values name (List.mem_cons_of_mem _ hname)

/-! ## Runs -/

namespace Program

section Runs

variable (buildDirectory : String) (filter? : String → Option LogFilter)

/-- The terminal at which a run begins to show its log. -/
def begun (ws : Workspace) : Terminal :=
  ⟨ws, ws.logFilter buildDirectory filter?, []⟩

/-- The terminal behind a run that logs some events, carries out a plan and logs some more. -/
def behind (ws : Workspace) (before : List Event) (plan : Except RunFailure (Option Writing))
    (after : List Event) : Terminal :=
  (((begun buildDirectory filter? ws).tell before).carryOut plan).tell after

variable {ws : Workspace}

theorem run_eq (hplain : ∀ assignment ∈ ws.assignments buildDirectory, assignment.IsPlain) :
    run (TerminalM.host buildDirectory filter?) ⟨ws, .silent, []⟩ =
      match Settings.ofVariables (ws.valueOf? buildDirectory) with
      | .error e => (.error (.settings e), begun buildDirectory filter? ws)
      | .ok settings =>
          (importSheet (TerminalM.host buildDirectory filter?) settings >>= fun imported =>
            match imported with
            | .error e => pure (.error e)
            | .ok result => deliver (TerminalM.host buildDirectory filter?) settings result)
            (begun buildDirectory filter? ws) := by
  obtain ⟨set, hset, hget⟩ := exists_reads_environment filter? hplain
  have hsettings : Settings.ofVariables (Keyed.get? set) =
      Settings.ofVariables (ws.valueOf? buildDirectory) :=
    Settings.ofVariables_congr fun name hname => hget name (List.mem_cons_of_mem _ hname)
  have hfilter : logFilter filter? (Keyed.get? set) = ws.logFilter buildDirectory filter? := by
    rw [ws.logFilter_eq, logFilter, logFilter, hget _ List.mem_cons_self]
  have hset := hset ⟨ws, .silent, []⟩ rfl
  have hshow : (TerminalM.host buildDirectory filter?).showLog (logFilter filter? (Keyed.get? set))
      ⟨ws, .silent, []⟩ = ((), begun buildDirectory filter? ws) := by
    rw [begun, ← hfilter]
    rfl
  rw [Terminal.tell_nil] at hset
  rw [run, TerminalM.bind_eq hset, ← hsettings]
  refine (TerminalM.bind_eq hshow).trans ?_
  cases Settings.ofVariables (Keyed.get? set) <;> rfl

/-- What a run comes to, matching left aside, is settled by the export and by the settings but those
for packs.  Until then it logs the same events in all workspaces that agree in these. -/
theorem exists_run_eq (ws : Workspace) : ∃ before, ∀ other : Workspace,
    (∀ assignment ∈ other.assignments buildDirectory, assignment.IsPlain) →
    ws.DiffersInPacks other buildDirectory → ∃ after, (∀ event ∈ after, event.IsOfMatching) ∧
      run (TerminalM.host buildDirectory filter?) ⟨other, .silent, []⟩ =
        ((plan ws buildDirectory).map fun _ => (),
          behind buildDirectory filter? other before (plan ws buildDirectory) after) := by
  cases hsettings : Settings.ofVariables (ws.valueOf? buildDirectory) with
  | error e =>
      refine ⟨[], fun other hplain hdiffers => ⟨[], by simp, ?_⟩⟩
      obtain ⟨compendiumDir, packs, hother⟩ := hdiffers.exists_settings_eq
      rw [run_eq _ _ hplain, hother, plan, prepare, hsettings, behind]
      simp only [Terminal.tell_nil]
      rfl
  | ok settings =>
      obtain ⟨events, htells⟩ := exists_tells_importSheet buildDirectory filter? settings.formatId
        settings.input ((ws.readBytes settings.input).bind textOfBytes)
      refine ⟨events, fun other hplain hdiffers => ?_⟩
      obtain ⟨compendiumDir, packs, hother⟩ := hdiffers.exists_settings_eq
      rw [hsettings] at hother
      have hinput := hdiffers.input _ (Settings.ofVariables_eq_ok_iff.mp hsettings).input
      have himport := htells other { settings with compendiumDir, packs } rfl rfl (by rw [hinput])
        (begun buildDirectory filter? other) rfl
      rw [run_eq _ _ hplain, hother, plan, prepare, hsettings]
      simp only [Except.map, TerminalM.bind_eq himport]
      cases importOf settings.formatId settings.input
          ((ws.readBytes settings.input).bind textOfBytes) with
      | error e => exact ⟨[], by simp, Prod.ext rfl (Terminal.tell_nil _).symm⟩
      | ok result =>
          have hwriting : writingOf other { settings with compendiumDir, packs } result =
              writingOf ws settings result := by
            simp only [writingOf, resultPath, hdiffers.places.target]
          obtain ⟨after, hafter, hdeliver⟩ := exists_deliver_eq buildDirectory filter?
            { settings with compendiumDir, packs } result
            ((begun buildDirectory filter? other).tell events)
          have hbegun : ((begun buildDirectory filter? other).tell events).workspace = other := rfl
          rw [hbegun, hwriting] at hdeliver
          exact ⟨after, hafter, hdeliver⟩

end Runs

end Program

end SheetImport
