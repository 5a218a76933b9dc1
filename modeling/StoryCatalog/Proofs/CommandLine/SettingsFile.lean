import StoryCatalog.Proofs.CommandLine.ArtifactsDir
import StoryCatalog.Proofs.Settings.Loading

/-!
# How the commands answer a settings file

Every command that loads settings ends with the failure that loading them ends with
(`runTask_of_unloaded`). So a file that is found to be no TOML or unfit is answered with a complaint
about the settings. What interrupts the loading ends the command without an exit code
(`runTask_settings_file`), and brackets that are not closed do interrupt it
(`runTask_of_unclosed`).
-/

namespace StoryCatalog

namespace Disk

variable {disk : Disk} {root : Place}

/-- A root whose settings file is read has the settings read from it. -/
theorem loadSettings_of_ok {settings : Settings}
    (h : Settings.load (root.path.child Settings.fileName).toText
      (disk.content? (root.path.child Settings.fileName)) = .ok settings) :
    disk.loadSettings root = .ok settings := by
  simp only [loadSettings, h]

/-- A settings file that cannot be read fails the loading in the same way. -/
theorem loadSettings_of_error {e : Settings.LoadError}
    (h : Settings.load (root.path.child Settings.fileName).toText
      (disk.content? (root.path.child Settings.fileName)) = .error e) :
    disk.loadSettings root = .error (.settings e) := by
  simp only [loadSettings, h]

end Disk

namespace CommandLine

open Settings (Interrupts)

variable {around : Surroundings} {disk : Disk} {root : Place} {task : Task} {failure : Failure}

/-- The task needs the settings of the repository at a place: to generate, validate or verify its
artifacts in the directory that the settings name, or to list a readable file from there. -/
inductive NeedsSettings (around : Surroundings) (disk : Disk) (root : Place) : Task → Prop where
  | generate {argument : Text} (hroot : around.place disk argument = .ok root) :
      NeedsSettings around disk root (.generate argument none)
  | validate {argument : Text} (hroot : around.place disk argument = .ok root) :
      NeedsSettings around disk root (.validate argument none)
  | verify {argument : Text} (hroot : around.place disk argument = .ok root) :
      NeedsSettings around disk root (.verify argument none)
  | list {file : Text} {path : Path} {content : Bytes} {source : Text} {backend : Option Backend}
      {context color : Bool} (hroot : around.workingDirectory = root)
      (hpath : around.path file = .ok path) (hread : disk.read (around.fromHere path) = .ok content)
      (hsource : readText content = .ok source) :
      NeedsSettings around disk root (.list file backend context color)

/-- Without its settings a task does nothing and fails as their loading does. -/
theorem runTask_of_unloaded [SourceAccess] (least : LogLevel)
    (hneeds : NeedsSettings around disk root task)
    (h : disk.loadSettings root = .error failure) :
    runTask around disk least task = .ofFailure disk failure := by
  have hdirectory : around.artifactsDir disk root none = .error failure := by
    rw [Surroundings.artifactsDir, h]
    rfl
  cases hneeds with
  | generate hroot =>
      refine runTask_generate_of_failed hroot ?_
      simp only [Disk.generate, Disk.settingsOr, Run.look, Run.andThen, h]
  | validate hroot => rw [runTask_validate hroot, validateTask, hdirectory]
  | verify hroot => rw [runTask_verify hroot, verifyTask, hdirectory]
  | list hroot hpath hread hsource =>
      simp only [runTask, listFile, hpath, hread, hsource, hroot, h]

/-- A settings file with enough brackets that are not closed ends every task that needs it without a
word and without an exit code. -/
theorem runTask_of_unclosed [SourceAccess] (least : LogLevel)
    (hneeds : NeedsSettings around disk root task) {count : Nat}
    (hcontent : disk.content? (root.path.child Settings.fileName) =
      some (Toml.unclosed count).utf8) (hcount : Datum.mostCalls ≤ 2 * count) :
    runTask around disk least task = ⟨disk, [], [], .error (.settings .tooDeep)⟩ := by
  have hloaded : disk.loadSettings root = .error (.settings .tooDeep) := by
    refine Disk.loadSettings_of_error ?_
    rw [hcontent]
    exact Settings.load_unclosed _ hcount
  exact runTask_of_unloaded least hneeds hloaded

/-- Whatever the file with the settings of a repository holds, if there is one: either usable
settings are loaded, with the reader that the file names, or the file is found to be no TOML or
unfit, and every task that needs the settings does nothing but complain about them and exits with
the code for wrong use. Only when the bytes of the file are no text, a run of digits in it is longer
than an integer may be, or its brackets open more values than may stand within each other, can the
loading be interrupted, and then these tasks end without an exit code. -/
theorem runTask_settings_file [SourceAccess] (around : Surroundings) (disk : Disk)
    (least : LogLevel) (root : Place) :
    let path := root.path.child Settings.fileName
    (∃ settings, disk.loadSettings root = .ok settings ∧ settings.Usable ∧
        settings.HasReaderOf (disk.content? path)) ∨
      (∃ e, disk.loadSettings root = .error (.settings e) ∧
        ((∃ message, e = .malformed path.toText message) ∨ ∃ fault, e = .unfit path.toText fault) ∧
        ∀ task, NeedsSettings around disk root task →
          runTask around disk least task =
            .complain disk ("config error: " ++ e.message ++ "\n") 2) ∨
      ∃ bytes e, disk.content? path = some bytes ∧ Interrupts bytes e ∧
        disk.loadSettings root = .error (.settings e) ∧
        ∀ task, NeedsSettings around disk root task →
          runTask around disk least task = ⟨disk, [], [], .error (.settings e)⟩ := by
  intro path
  have hanswer : ∀ e, disk.loadSettings root = .error (.settings e) →
      ∀ task, NeedsSettings around disk root task →
        runTask around disk least task = .ofFailure disk (.settings e) :=
    fun e he task hneeds => runTask_of_unloaded least hneeds he
  rcases Settings.load_cases path.toText (disk.content? path) with
    ⟨settings, hload, hsettings⟩ | ⟨message, hload⟩ | ⟨fault, hload⟩ |
      ⟨bytes, e, hcontent, hload, hinterrupts⟩
  · exact .inl ⟨settings, Disk.loadSettings_of_ok hload, hsettings⟩
  · have hfailed := Disk.loadSettings_of_error hload
    exact .inr (.inl ⟨_, hfailed, .inl ⟨message, rfl⟩, hanswer _ hfailed⟩)
  · have hfailed := Disk.loadSettings_of_error hload
    exact .inr (.inl ⟨_, hfailed, .inr ⟨fault, rfl⟩, hanswer _ hfailed⟩)
  · have hfailed := Disk.loadSettings_of_error hload
    refine .inr (.inr ⟨bytes, e, hcontent, hinterrupts, hfailed, ?_⟩)
    cases hinterrupts with
    | undecodable _ => exact hanswer _ hfailed
    | tooLong _ _ => exact hanswer _ hfailed
    | tooDeep _ _ => exact hanswer _ hfailed

end CommandLine

/-! A repository that holds nothing but a file for its settings. -/

namespace SettingsOnly

open CommandLine SourceAccess

def around : Surroundings where
  workingDirectory := ["work"]
  home := ⟨.top, ["home"]⟩
  scratch := ⟨.top, ["tmp", "verify"]⟩

def root : Place := ["work"]

def disk (content : Bytes) : Disk where
  entries := [(["work"], .directory), (["work", Settings.fileName], .file content)]
  distinct :=
    have hnodup : ([["work"], ["work", Settings.fileName]] : List Place).Nodup := by decide
    hnodup

/-- Suffixes that are no list are complained about, and validation exits with the code for wrong
use. -/
theorem runTask_unfit :
    let unfit := disk (Text.utf8 "extensions = \".js\"\n")
    NeedsSettings around unfit root (.validate "." none) ∧
      (runTask around unfit .warning (.validate "." none)).complaints =
        Text.ofString ("config error: Invalid config in /work/storymap.toml: "
          ++ "extensions must be a list of file suffixes\n") ∧
      (runTask around unfit .warning (.validate "." none)).exit = .ok 2 := by
  intro unfit
  have hneeds : NeedsSettings around unfit root (.validate "." none) := .validate rfl
  have hcomplaints : (runTask around unfit .warning (.validate "." none)).complaints =
      Text.ofString ("config error: Invalid config in /work/storymap.toml: "
        ++ "extensions must be a list of file suffixes\n") := by
    decide +kernel
  refine ⟨hneeds, hcomplaints, ?_⟩
  rcases runTask_settings_file around unfit .warning root with
    ⟨settings, hloaded, -⟩ | ⟨e, -, -, hanswer⟩ | ⟨_, e, -, -, -, hends⟩
  · have hnone : (unfit.loadSettings root).toOption.isNone = true := by decide +kernel
    rw [hloaded] at hnone
    cases hnone
  · rw [hanswer _ hneeds]
    rfl
  · rw [hends _ hneeds] at hcomplaints
    cases hcomplaints

/-- No text has this byte. -/
def noText : Bytes := [UInt8.ofNat 0xFF]

theorem content?_disk (content : Bytes) :
    (disk content).content? (root.path.child Settings.fileName) = some content :=
  rfl

theorem load_noText (path : Text) :
    Settings.load path (some noText) =
      .error (.undecodable ⟨.invalidStart, 0, 1, UInt8.ofNat 0xFF⟩) := by
  have hdecode : Utf8.decode noText = .error ⟨.invalidStart, 0, 1, UInt8.ofNat 0xFF⟩ := by
    rw [noText, Utf8.decode, Utf8.decodeFrom]
    rfl
  simp only [Settings.load, hdecode]

/-- The file is there, but its bytes are neither loaded nor found to be no TOML or unfit: they are
no text, or have too many brackets. Of the commands that need the settings there is validation, and
none exits with the code for wrong use or complains. -/
theorem runTask_undecodable :
    (∃ error, (disk noText).loadSettings root = .error (.settings (.undecodable error))) ∧
      (disk (Toml.unclosed 500).utf8).loadSettings root = .error (.settings .tooDeep) ∧
      ∀ content ∈ [noText, (Toml.unclosed 500).utf8],
        (disk content).content? (root.path.child Settings.fileName) = some content ∧
          NeedsSettings around (disk content) root (.validate "." none) ∧
          ∀ task, NeedsSettings around (disk content) root task →
            (runTask around (disk content) .warning task).exit ≠ .ok 2 ∧
              (runTask around (disk content) .warning task).complaints = [] := by
  have hbytes : (disk noText).loadSettings root =
      .error (.settings (.undecodable ⟨.invalidStart, 0, 1, UInt8.ofNat 0xFF⟩)) :=
    Disk.loadSettings_of_error (by rw [content?_disk, load_noText])
  have hcount : Datum.mostCalls ≤ 2 * 500 := by decide
  have hbrackets : (disk (Toml.unclosed 500).utf8).loadSettings root =
      .error (.settings .tooDeep) :=
    Disk.loadSettings_of_error (by rw [content?_disk, Settings.load_unclosed _ hcount])
  refine ⟨⟨_, hbytes⟩, hbrackets, ?_⟩
  intro content hcontent
  refine ⟨content?_disk content, .validate rfl, fun task hneeds => ?_⟩
  rcases List.mem_pair.mp hcontent with rfl | rfl
  · rw [runTask_of_unloaded .warning hneeds hbytes]
    exact ⟨by simp [Outcome.ofFailure, Failure.isOfSettings], rfl⟩
  · rw [runTask_of_unclosed .warning hneeds (content?_disk _) hcount]
    exact ⟨by simp, rfl⟩

end SettingsOnly

end StoryCatalog
