import Mathlib.Tactic.SplitIfs
import SheetImport.Import
import SheetImport.Workspace

/-!
# Where a result is written

The name of a result's file is made from the actor's name, which can be any text.  No character
survives in it that a path gives a meaning to, so the file lies directly in the directory that it is
written to.  Writing it changes this one file and nothing else.
-/

namespace SheetImport

/-! ## Names of files -/

/-- Whether a name has no character that some system's paths give a meaning to. -/
def IsFlatName (name : String) : Prop :=
  ∀ c ∈ name.toList, c ≠ '/' ∧ c ≠ '\\' ∧ c ≠ ':' ∧ c ≠ '\x00'

theorem isFlatName_of_all {name : String}
    (hall : name.toList.all fun c => c != '/' && c != '\\' && c != ':' && c != '\x00') :
    IsFlatName name := by
  intro c hc
  simpa [and_assoc] using List.all_eq_true.mp hall c hc

theorem IsFlatName.append {first second : String} (hfirst : IsFlatName first)
    (hsecond : IsFlatName second) : IsFlatName (first ++ second) := by
  intro c hc
  rw [String.toList_append] at hc
  exact (List.mem_append.mp hc).elim (hfirst c) (hsecond c)

namespace Imported

theorem fileChar_isFlat (c : Char) :
    fileChar c ≠ '/' ∧ fileChar c ≠ '\\' ∧ fileChar c ≠ ':' ∧ fileChar c ≠ '\x00' := by
  unfold fileChar
  split
  case isTrue => decide
  case isFalse hflat => simpa only [not_or] using hflat

theorem isFlatName_fileName (result : Imported) : IsFlatName result.fileName := by
  have hname : IsFlatName
      (String.ofList (result.shownName.toList.map fileChar)) := by
    intro c hc
    rw [String.toList_ofList] at hc
    obtain ⟨d, -, rfl⟩ := List.mem_map.mp hc
    exact fileChar_isFlat d
  exact ((isFlatName_of_all (by rfl)).append hname).append (isFlatName_of_all (by rfl))

/-- The name begins with a letter, so it is none of the names that lead elsewhere. -/
theorem head?_fileName (result : Imported) : result.fileName.toList.head? = some 'f' := by
  simp [fileName, String.toList_append]

end Imported

namespace Workspace

/-! ## Paths -/

theorem pathNames_ne_nil (cs : List Char) : pathNames cs ≠ [] := by
  cases cs with
  | nil => simp [pathNames]
  | cons c rest =>
      rw [pathNames]
      split
      · simp
      · split <;> simp

theorem pathNames_append_slash (first rest : List Char) :
    pathNames (first ++ '/' :: rest) = pathNames first ++ pathNames rest := by
  induction first with
  | nil => simp [pathNames]
  | cons c first ih =>
      rw [List.cons_append, pathNames, pathNames, ih]
      split
      case isTrue => rfl
      case isFalse =>
        cases hnames : pathNames first with
        | nil => exact absurd hnames (pathNames_ne_nil first)
        | cons name names => rfl

theorem pathNames_of_no_slash {name : List Char} (hname : '/' ∉ name) :
    pathNames name = [name] := by
  induction name with
  | nil => rfl
  | cons c rest ih =>
      simp only [List.mem_cons, not_or] at hname
      rw [pathNames, if_neg (Ne.symm hname.1), ih hname.2]

theorem walk_append (ws : Workspace) (place first rest : List String) :
    ws.walk place (first ++ rest) = (ws.walk place first).bind fun place => ws.walk place rest := by
  induction first generalizing place with
  | nil => rfl
  | cons name first ih =>
      rw [List.cons_append, walk, walk]
      split_ifs
      all_goals first | rfl | exact ih _

/-- The place from which a path is followed. -/
def start (ws : Workspace) (path : String) : List String :=
  if path.toList.head? = some '/' then [] else ws.workingDirectory

theorem locate_eq_ok_iff {ws : Workspace} {path : String} {place : List String} :
    ws.locate path = .ok place ↔
      ('\x00' ∉ path.toList ∧ path ≠ "" ∧ path.utf8ByteSize < pathLimit) ∧
      ws.walk (ws.start path) ((pathNames path.toList).map String.ofList) = .ok place := by
  rw [locate]
  change ite _ _ (ite _ _ (ite _ _ (ws.walk (ws.start path) _))) = _ ↔ _
  split_ifs with hnul hempty hlimit
  · simp_all
  · simp [hempty]
  · simp [Nat.not_lt.mpr hlimit]
  · simp_all

/-- Whether a path is that of a directory at some place.  Without any name it is that of the working
directory. -/
structure LeadsToDirectory (ws : Workspace) (path : String) (directory : List String) : Prop where
  located : if path = "" then directory = ws.workingDirectory
    else ws.locate path = .ok directory
  isDirectory : ws.isDirectory directory

/-- A name that leads into a directory leads to a place in it. -/
theorem walk_name {ws : Workspace} {parent place : List String} {name : String}
    (hhead : name.toList.head? = some 'f') (h : ws.walk parent [name] = .ok place) :
    ws.isDirectory parent ∧ place = parent ++ [name] := by
  have hempty : name ≠ "" := by rintro rfl; cases hhead
  have hdot : name ≠ "." := by rintro rfl; cases hhead
  have hdots : name ≠ ".." := by rintro rfl; cases hhead
  simp only [walk, hempty, hdot, hdots, or_self, if_false] at h
  split_ifs at h with hdirectory hlong
  cases h
  exact ⟨by simpa using hdirectory, rfl⟩

/-- A path of a name in a directory that has a name itself. -/
theorem exists_pathIn_eq {directory : String} (hne : directory ≠ "") (name : String) :
    ∃ rest base, pathIn directory name = directory ++ rest ∧
      (pathIn directory name).toList = base ++ '/' :: name.toList ∧
      (directory.toList = base ∨ directory.toList = base ++ ['/']) := by
  unfold pathIn
  rw [if_neg hne]
  split
  case isTrue hslash =>
    obtain ⟨base, hbase⟩ := List.getLast?_eq_some_iff.mp hslash
    exact ⟨name, base, rfl, by simp [hbase], .inr hbase⟩
  case isFalse =>
    exact ⟨"/" ++ name, directory.toList, String.append_assoc, by simp, .inl rfl⟩

theorem start_of_head? {ws : Workspace} {name : String} (hhead : name.toList.head? = some 'f') :
    ws.start name = ws.workingDirectory := by
  rw [start, hhead]
  rfl

/-- A path that goes on is followed from the same place. -/
theorem start_append {ws : Workspace} {first : String} (hne : first ≠ "") (rest : String) :
    ws.start (first ++ rest) = ws.start first := by
  rw [start, start, String.toList_append]
  cases hfirst : first.toList with
  | nil => exact absurd (String.toList_eq_nil_iff.mp hfirst) hne
  | cons c cs => rfl

/-- The path that a name has in a directory leads to the place of that name in it. -/
theorem locate_pathIn {ws : Workspace} {directory name : String} {place : List String}
    (hflat : '/' ∉ name.toList) (hhead : name.toList.head? = some 'f')
    (h : ws.locate (pathIn directory name) = .ok place) :
    ∃ parent, ws.LeadsToDirectory directory parent ∧ place = parent ++ [name] := by
  obtain ⟨⟨hnul, -, hlimit⟩, hwalk⟩ := locate_eq_ok_iff.mp h
  by_cases hempty : directory = ""
  · subst hempty
    change ws.walk (ws.start name) ((pathNames name.toList).map String.ofList) = _ at hwalk
    rw [start_of_head? hhead, pathNames_of_no_slash hflat, List.map_singleton,
      String.ofList_toList] at hwalk
    obtain ⟨hdirectory, hplace⟩ := walk_name hhead hwalk
    exact ⟨ws.workingDirectory, ⟨by simp, hdirectory⟩, hplace⟩
  · obtain ⟨rest, base, hpath, hchars, hbase⟩ := exists_pathIn_eq hempty name
    rw [hchars, pathNames_append_slash, pathNames_of_no_slash hflat, List.map_append, walk_append,
      List.map_singleton, String.ofList_toList, hpath, start_append hempty] at hwalk
    cases hparent : ws.walk (ws.start directory) ((pathNames base).map String.ofList) with
    | error failure =>
        rw [hparent] at hwalk
        cases hwalk
    | ok parent =>
        rw [hparent] at hwalk
        obtain ⟨hdirectory, hplace⟩ := walk_name hhead hwalk
        refine ⟨parent, ⟨?_, hdirectory⟩, hplace⟩
        rw [if_neg hempty, locate_eq_ok_iff]
        rw [hpath, String.toList_append] at hnul
        rw [hpath, String.utf8ByteSize_append] at hlimit
        refine ⟨⟨fun hmem => hnul (List.mem_append_left _ hmem), hempty, by omega⟩, ?_⟩
        rcases hbase with hbase | hbase <;> rw [hbase]
        · exact hparent
        · rw [pathNames_append_slash, List.map_append, walk_append, hparent]
          simp [Except.bind, pathNames, walk, hdirectory]

/-! ## Writing -/

/-- Whether one file of a workspace has got some bytes, and nothing else has changed. -/
structure Writes (ws : Workspace) (place : List String) (bytes : ByteArray) (next : Workspace) :
    Prop where
  file : next.file? place = some bytes
  others : ∀ other, other ≠ place → next.file? other = ws.file? other
  directories : next.directories = ws.directories
  workingDirectory : next.workingDirectory = ws.workingDirectory
  environment : next.environment = ws.environment

/-- The place that is written to under a path. -/
def target (ws : Workspace) (path : String) : Except FileFailure (List String) :=
  (ws.locate path).bind fun place =>
    if ws.isDirectory place then .error .isDirectory else .ok place

def put (ws : Workspace) (place : List String) (bytes : ByteArray) : Workspace :=
  { ws with files := ws.files.filter (fun file => file.1 != place) ++ [(place, bytes)] }

theorem writeText_eq (ws : Workspace) (path text : String) :
    ws.writeText path text = (ws.target path).map fun place => ws.put place text.toUTF8 := by
  rw [writeText, target]
  cases ws.locate path with
  | error failure => rfl
  | ok place =>
      by_cases hdirectory : ws.isDirectory place <;>
        simp [Except.bind, Except.map, hdirectory, put]

theorem locate_of_target {ws : Workspace} {path : String} {place : List String}
    (h : ws.target path = .ok place) : ws.locate path = .ok place := by
  rw [target] at h
  cases hlocate : ws.locate path with
  | error failure =>
      rw [hlocate] at h
      cases h
  | ok found =>
      rw [hlocate] at h
      simp only [Except.bind] at h
      split at h <;> cases h
      rfl

theorem writes_put (ws : Workspace) (place : List String) (bytes : ByteArray) :
    ws.Writes place bytes (ws.put place bytes) where
  file := by
    have hnone : (ws.files.filter fun file => file.1 != place).find? (·.1 == place) = none := by
      simp
    rw [file?, put, List.find?_append, hnone]
    simp
  others other hother := by
    have hsame : (ws.files.filter fun file => file.1 != place).find? (·.1 == other) =
        ws.files.find? (·.1 == other) := by
      rw [List.find?_filter]
      congr 1
      funext file
      by_cases hfile : file.1 = other <;> simp [hfile, hother]
    rw [file?, file?, put, List.find?_append, hsame]
    simp [Ne.symm hother]
  directories := rfl
  workingDirectory := rfl
  environment := rfl

/-! ## Workspaces with the same places -/

/-- Whether two workspaces have their directories and files at the same places, whatever is in the
files. -/
structure SamePlaces (ws other : Workspace) : Prop where
  workingDirectory : other.workingDirectory = ws.workingDirectory
  directories : other.directories = ws.directories
  files : other.files.map Prod.fst = ws.files.map Prod.fst

namespace SamePlaces

variable {ws other : Workspace}

theorem any_files (h : ws.SamePlaces other) (holds : List String → Bool) :
    (other.files.any fun file => holds file.1) = ws.files.any fun file => holds file.1 := by
  have hany := congrArg (List.any · holds) h.files
  rw [List.any_map, List.any_map] at hany
  exact hany

theorem isDirectory (h : ws.SamePlaces other) (place : List String) :
    other.isDirectory place = ws.isDirectory place := by
  rw [Workspace.isDirectory, Workspace.isDirectory, h.workingDirectory, h.directories,
    h.any_files fun name => place.isPrefixOf name && name != place]

theorem isSome_file? (h : ws.SamePlaces other) (place : List String) :
    (other.file? place).isSome = (ws.file? place).isSome := by
  rw [file?, file?, Option.isSome_map, Option.isSome_map, List.isSome_find?, List.isSome_find?]
  exact h.any_files (· == place)

theorem walk (h : ws.SamePlaces other) (place names : List String) :
    other.walk place names = ws.walk place names := by
  induction names generalizing place with
  | nil => rfl
  | cons name rest ih =>
      simp only [Workspace.walk, h.isDirectory, h.isSome_file?, ih]

theorem locate (h : ws.SamePlaces other) (path : String) : other.locate path = ws.locate path := by
  simp only [Workspace.locate, h.walk, h.workingDirectory]

/-- A file that holds the same in both is read with the same result. -/
theorem readBytes (h : ws.SamePlaces other) {path : String}
    (hfile : ∀ place, ws.locate path = .ok place → other.file? place = ws.file? place) :
    other.readBytes path = ws.readBytes path := by
  rw [Workspace.readBytes, Workspace.readBytes, h.locate]
  cases hlocate : ws.locate path with
  | error failure => rfl
  | ok place => simp only [hfile place hlocate, h.isDirectory]

/-- In both workspaces a path is written to at the same place, or not at all. -/
theorem target (h : ws.SamePlaces other) (path : String) : other.target path = ws.target path := by
  simp only [Workspace.target, h.locate, h.isDirectory]

end SamePlaces

end Workspace

end SheetImport
