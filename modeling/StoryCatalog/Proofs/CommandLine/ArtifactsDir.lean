import StoryCatalog.CommandLine.Program
import StoryCatalog.Proofs.Catalog.Generation

/-!
# The directory of the artifacts

The commands that check artifacts take the directory that the settings name, if they are not given
another one. A generation takes the same directory, but refuses one that is not named by a relative
path inside the repository (`resolveOutputDir_eq_ok_iff`). So all commands agree on a directory that
a generation accepts; when it refuses one, the other commands still go where its name leads, and
none of them complains about the settings (`runTask_without_directory`). A name that leads nowhere,
because of a circle of links or a null character, ends them without an exit code.
-/

namespace StoryCatalog

namespace Disk

variable {disk : Disk} {root place : Place} {settings : Settings} {path : Path} {failure : Failure}

/-- The output directory is accepted when its name is relative and leads into the repository. -/
theorem resolveOutputDir_eq_ok_iff {outputDir : Text} :
    disk.resolveOutputDir root outputDir = .ok place ↔
      outputDir ≠ [] ∧ outputDir.head? ≠ some 0x7E ∧
        (Path.ofText outputDir).isAbsolute = false ∧
        disk.resolve (root.path.join (Path.ofText outputDir)) = .ok place ∧ root <+: place := by
  unfold resolveOutputDir
  dsimp only
  split
  · rename_i hempty
    rw [List.isEmpty_iff] at hempty
    exact iff_of_false (by simp) fun h => h.1 hempty
  · rename_i hempty
    rw [List.isEmpty_iff] at hempty
    split
    · rename_i hrelative
      refine iff_of_false (by simp) ?_
      rintro ⟨_, hhome, habsolute, _⟩
      simp [hhome, habsolute] at hrelative
    · rename_i hrelative
      simp only [Bool.or_eq_true, decide_eq_true_eq, not_or, Bool.not_eq_true] at hrelative
      cases hresolve : disk.resolve (root.path.join (Path.ofText outputDir)) with
      | error e => simp
      | ok reached =>
          dsimp only
          split
          · rename_i hinside
            rw [List.isPrefixOf_iff_prefix] at hinside
            constructor
            · rintro ⟨⟩
              exact ⟨hempty, hrelative.1, hrelative.2, rfl, hinside⟩
            · rintro ⟨_, _, _, ⟨⟩, _⟩
              rfl
          · rename_i hinside
            rw [List.isPrefixOf_iff_prefix] at hinside
            refine iff_of_false (by simp) ?_
            rintro ⟨_, _, _, ⟨⟩, hprefix⟩
            exact hinside hprefix

/-- A directory that leads nowhere is refused for that, or for its name alone. -/
theorem exists_resolveOutputDir_eq_error {outputDir : Text} {error : ResolveError}
    (h : disk.resolve (root.path.join (Path.ofText outputDir)) = .error error) :
    ∃ e, disk.resolveOutputDir root outputDir = .error e ∧
      (e = .empty ∨ e = .notRelative ∨ e = .unresolved error) := by
  unfold resolveOutputDir
  dsimp only
  split
  · exact ⟨_, rfl, .inl rfl⟩
  · split
    · exact ⟨_, rfl, .inr (.inl rfl)⟩
    · rw [h]
      exact ⟨_, rfl, .inr (.inr rfl)⟩

/-- A directory that is refused although it leads to a place is a fault of the settings. -/
theorem isOfSettings_of_resolve {outputDir : Text} {e : OutputDirError}
    (h : disk.resolveOutputDir root outputDir = .error e)
    (hresolve : disk.resolve (root.path.join (Path.ofText outputDir)) = .ok place) :
    (Failure.outputDir e).isOfSettings = true := by
  unfold resolveOutputDir at h
  dsimp only at h
  rw [hresolve] at h
  split at h
  · cases h
    rfl
  · split at h
    · cases h
      rfl
    · dsimp only at h
      split at h
      · cases h
      · cases h
        rfl

/-- What goes wrong in changing the disk is no fault of the settings. -/
theorem isOfSettings_change {x : Except DiskError Disk}
    (h : (Run.change disk (Failure.ofDisk path x)).result = .error failure) :
    failure.isOfSettings = false := by
  cases x with
  | ok changed => cases h
  | error e =>
      cases h
      rfl

/-- Once a generation has its settings and its directory, they are not what it fails for. -/
theorem isOfSettings_generateInto [SourceAccess]
    (h : (disk.generateInto root path settings).result = .error failure) :
    failure.isOfSettings = false := by
  -- every part of a generation fails for reasons of its own
  simp only [generateInto, Run.result_report] at h
  rcases Run.andThen_eq_error h with hprepare | ⟨_, -, h⟩
  · unfold prepare at hprepare
    split at hprepare
    · cases hprepare
    · cases hprepare
      rfl
  rcases Run.andThen_eq_error h with hcatalog | ⟨catalog, -, h⟩
  · unfold Disk.catalog at hcatalog
    split at hcatalog
    · cases hcatalog
      rfl
    · split at hcatalog
      · cases hcatalog
        rfl
      · cases hcatalog
  rcases Run.andThen_eq_error h with hrecords | ⟨_, -, h⟩
  · rcases Run.andThen_eq_error hrecords with hfault | ⟨_, -, hfault⟩
    · exact isOfSettings_change hfault
    · split at hfault
      · cases hfault
      · cases hfault
        rfl
  rcases Run.andThen_eq_error h with hsummary | ⟨_, -, h⟩
  · unfold writeSummary at hsummary
    split at hsummary
    · cases hsummary
      rfl
    · exact isOfSettings_change hsummary
  · cases h

/-- Nor does verification fail for them, when the settings can be loaded. -/
theorem isOfSettings_verify [SourceAccess] {artifacts scratch : Path}
    (hloaded : disk.loadSettings root = .ok settings)
    (hrequired : disk.requireArtifacts artifacts = .ok ())
    (h : (disk.verify root artifacts scratch none).result = .error failure) :
    failure.isOfSettings = false := by
  rcases Run.andThen_eq_error h with hlook | ⟨_, -, h⟩
  · cases hrequired.symm.trans hlook
  · rcases Run.andThen_eq_error h with hgenerate | ⟨_, -, h⟩
    · have hinto : disk.generate root (some scratch) none =
          disk.generateInto root scratch settings := generate_eq_generateInto hloaded rfl
      rw [Run.look, hinto] at hgenerate
      exact isOfSettings_generateInto hgenerate
    · cases h

end Disk

namespace CommandLine

variable {around : Surroundings} {disk : Disk} {least : LogLevel} {argument : Text} {root : Place}
  {settings : Settings}

/-- Validation has an exit code of its own. -/
theorem exit_validateDirectory (disk : Disk) (least : LogLevel) (directory : Place) :
    (validateDirectory disk least directory).exit =
      .ok (if (disk.validate false directory.path).ok then 0 else 1) :=
  rfl

/-- Verification exits with a code for wrong use only when its directory is missing. -/
theorem exit_verifyDirectory_eq_two_iff [SourceAccess]
    (hloaded : disk.loadSettings root = .ok settings) (directory : Place) :
    (verifyDirectory around disk least root directory).exit = .ok 2 ↔
      disk.requireArtifacts directory.path ≠ .ok () := by
  unfold verifyDirectory
  cases hrequired : disk.requireArtifacts directory.path with
  | error failure => exact iff_of_true rfl (by simp)
  | ok value =>
      refine iff_of_false ?_ (by simp)
      simp only [continueRun, Outcome.after]
      cases hresult : (disk.verify root directory.path around.scratch none).result with
      | error failure =>
          have hsettings := Disk.isOfSettings_verify hloaded hrequired hresult
          simp [Outcome.ofFailure, hsettings]
      | ok found =>
          dsimp only [Outcome.complain]
          split
          · simp
          · simp

/-- On a root that is a directory, `validate` is what its task does in this root. -/
theorem runTask_validate [SourceAccess] (hroot : around.place disk argument = .ok root)
    (artifactsDir : Option Text) :
    runTask around disk least (.validate argument artifactsDir) =
      validateTask around disk least root artifactsDir := by
  simp only [runTask, runTask.inRoot, hroot]

/-- On a root that is a directory, `verify` is what its task does in this root. -/
theorem runTask_verify [SourceAccess] (hroot : around.place disk argument = .ok root)
    (artifactsDir : Option Text) :
    runTask around disk least (.verify argument artifactsDir) =
      verifyTask around disk least root artifactsDir := by
  simp only [runTask, runTask.inRoot, hroot]

/-- Without an argument the artifacts are looked for where the settings put them. -/
theorem artifactsDir_none (hloaded : disk.loadSettings root = .ok settings) :
    around.artifactsDir disk root none =
      match disk.resolve (root.path.join (Path.ofText settings.outputDir)) with
      | .ok place => .ok place
      | .error e => .error (.unresolved e) := by
  rw [Surroundings.artifactsDir, hloaded]
  rfl

/-- Both commands that check artifacts do so where the name of the output directory leads. -/
theorem checks_of_resolve [SourceAccess] (least : LogLevel)
    (hroot : around.place disk argument = .ok root)
    (hloaded : disk.loadSettings root = .ok settings) {place : Place}
    (hresolve : disk.resolve (root.path.join (Path.ofText settings.outputDir)) = .ok place) :
    runTask around disk least (.validate argument none) = validateDirectory disk least place ∧
      runTask around disk least (.verify argument none) =
        verifyDirectory around disk least root place := by
  rw [runTask_validate hroot, runTask_verify hroot, validateTask, verifyTask,
    artifactsDir_none hloaded, hresolve]
  exact ⟨rfl, rfl⟩

/-- They end without an exit code, and without a word, when it leads nowhere. -/
theorem checks_of_unresolved [SourceAccess] (least : LogLevel)
    (hroot : around.place disk argument = .ok root)
    (hloaded : disk.loadSettings root = .ok settings) {error : Disk.ResolveError}
    (hresolve : disk.resolve (root.path.join (Path.ofText settings.outputDir)) = .error error) :
    runTask around disk least (.validate argument none) =
        ⟨disk, [], [], .error (.unresolved error)⟩ ∧
      runTask around disk least (.verify argument none) =
        ⟨disk, [], [], .error (.unresolved error)⟩ := by
  rw [runTask_validate hroot, runTask_verify hroot, validateTask, verifyTask,
    artifactsDir_none hloaded, hresolve]
  exact ⟨rfl, rfl⟩

/-- A generation that fails before it has said or written anything ends the task so. -/
theorem runTask_generate_of_failed [SourceAccess] {failure : Failure}
    (hroot : around.place disk argument = .ok root)
    (h : disk.generate root none none = ⟨disk, [], .error failure⟩) :
    runTask around disk least (.generate argument none) = .ofFailure disk failure := by
  simp only [runTask, runTask.inRoot, hroot, generateTask, Surroundings.place?, Option.map_none,
    h, Run.report, continueRun, Outcome.after, Log.render, List.filter_nil, List.flatMap_nil,
    List.nil_append]

/-- A generation stops when its output directory is refused. -/
theorem runTask_generate_of_refused [SourceAccess] (hroot : around.place disk argument = .ok root)
    (hloaded : disk.loadSettings root = .ok settings) {e : OutputDirError}
    (h : disk.resolveOutputDir root settings.outputDir = .error e) :
    runTask around disk least (.generate argument none) = .ofFailure disk (.outputDir e) := by
  refine runTask_generate_of_failed hroot ?_
  simp only [Disk.generate, Disk.settingsOr, Run.look, Run.andThen, hloaded, Disk.outputDir, h,
    List.append_nil]

/-- Faults of the settings exit with the code for wrong use. -/
theorem exit_ofFailure_eq_two {failure : Failure} (h : failure.isOfSettings = true) :
    (Outcome.ofFailure disk failure).exit = .ok 2 := by
  rw [Outcome.ofFailure, if_pos h]
  rfl

/-- Whatever the repository and the output directory that its settings name: when this directory is
accepted, it is the root or lies below it, the artifacts are generated there, and they are validated
and verified there if no other directory is given.

When it is refused although its name leads to a place, only the generation stops for that, as for
any fault of the settings. Validation and verification go on where the name leads: validation exits
as it does for any directory, verification complains about a missing directory only.

When its name leads nowhere, for a circle of links or a null character, it is refused as well.
Validation and verification then end without an exit code, and so does the generation, unless the
name alone is refused. -/
theorem runTask_without_directory [SourceAccess] (around : Surroundings) (disk : Disk)
    (least : LogLevel) {argument : Text} {root : Place} {settings : Settings}
    (hroot : around.place disk argument = .ok root)
    (hloaded : disk.loadSettings root = .ok settings) :
    (∀ place, disk.resolveOutputDir root settings.outputDir = .ok place →
      root <+: place ∧
        disk.generate root none none = disk.generateInto root place.path settings ∧
        runTask around disk least (.validate argument none) = validateDirectory disk least place ∧
        runTask around disk least (.verify argument none) =
          verifyDirectory around disk least root place) ∧
    (∀ e place, disk.resolveOutputDir root settings.outputDir = .error e →
      disk.resolve (root.path.join (Path.ofText settings.outputDir)) = .ok place →
      runTask around disk least (.generate argument none) = .ofFailure disk (.outputDir e) ∧
        (runTask around disk least (.generate argument none)).exit = .ok 2 ∧
        runTask around disk least (.validate argument none) = validateDirectory disk least place ∧
        (runTask around disk least (.validate argument none)).exit ≠ .ok 2 ∧
        runTask around disk least (.verify argument none) =
          verifyDirectory around disk least root place ∧
        ((runTask around disk least (.verify argument none)).exit = .ok 2 ↔
          disk.requireArtifacts place.path ≠ .ok ())) ∧
    ∀ error, disk.resolve (root.path.join (Path.ofText settings.outputDir)) = .error error →
      ∃ e, disk.resolveOutputDir root settings.outputDir = .error e ∧
        runTask around disk least (.generate argument none) = .ofFailure disk (.outputDir e) ∧
        ((e = .empty ∨ e = .notRelative) ∧
            (runTask around disk least (.generate argument none)).exit = .ok 2 ∨
          e = .unresolved error ∧
            (runTask around disk least (.generate argument none)).exit = .error (.outputDir e)) ∧
        runTask around disk least (.validate argument none) =
          ⟨disk, [], [], .error (.unresolved error)⟩ ∧
        runTask around disk least (.verify argument none) =
          ⟨disk, [], [], .error (.unresolved error)⟩ := by
  refine ⟨?_, ?_, ?_⟩
  · intro place haccepted
    obtain ⟨_, _, _, hresolve, hinside⟩ := Disk.resolveOutputDir_eq_ok_iff.mp haccepted
    refine ⟨hinside, Disk.generate_eq_generateInto hloaded ?_,
      checks_of_resolve least hroot hloaded hresolve⟩
    rw [Disk.outputDir, haccepted]
  · intro e place hrefused hresolve
    obtain ⟨hvalidate, hverify⟩ := checks_of_resolve least hroot hloaded hresolve
    have hgenerate : runTask around disk least (.generate argument none) = _ :=
      runTask_generate_of_refused hroot hloaded hrefused
    refine ⟨hgenerate, ?_, hvalidate, ?_, hverify, ?_⟩
    · rw [hgenerate]
      exact exit_ofFailure_eq_two (Disk.isOfSettings_of_resolve hrefused hresolve)
    · rw [hvalidate, exit_validateDirectory]
      split
      · simp
      · simp
    · rw [hverify]
      exact exit_verifyDirectory_eq_two_iff hloaded place
  · intro error hresolve
    obtain ⟨e, hrefused, hcases⟩ := Disk.exists_resolveOutputDir_eq_error hresolve
    have hgenerate : runTask around disk least (.generate argument none) = _ :=
      runTask_generate_of_refused hroot hloaded hrefused
    refine ⟨e, hrefused, hgenerate, ?_, checks_of_unresolved least hroot hloaded hresolve⟩
    rw [hgenerate]
    rcases hcases with rfl | rfl | rfl
    · exact .inl ⟨.inl rfl, rfl⟩
    · exact .inl ⟨.inr rfl, rfl⟩
    · exact .inr ⟨rfl, rfl⟩

end CommandLine

/-! A repository that holds nothing but settings that name the output directory. -/

namespace NamedOutput

open CommandLine SourceAccess

def around : Surroundings where
  workingDirectory := []
  home := ⟨.top, ["home"]⟩
  scratch := ⟨.top, ["tmp", "verify"]⟩

def root : Place := ["repo"]

def disk (name : String) : Disk where
  entries :=
    [(["repo"], .directory),
      (["repo", Settings.fileName], .file (Text.utf8 ("output_dir = \"" ++ name ++ "\"\n")))]
  distinct :=
    have hnodup : ([["repo"], ["repo", Settings.fileName]] : List Place).Nodup := by decide
    hnodup

theorem exists_settings (name : String)
    (h : ((disk name).loadSettings root).toOption.map Settings.outputDir = some name) :
    ∃ settings, (disk name).loadSettings root = .ok settings ∧ settings.outputDir = name := by
  cases hloaded : (disk name).loadSettings root with
  | error failure =>
      rw [hloaded] at h
      cases h
  | ok settings =>
      rw [hloaded] at h
      exact ⟨settings, rfl, Option.some.inj h⟩

/-- A path that leaves the repository and comes back is accepted, and all commands follow it. -/
theorem runTask_reentering :
    around.place (disk "../repo/out") "repo" = .ok root ∧
      ∃ settings, (disk "../repo/out").loadSettings root = .ok settings ∧
        (disk "../repo/out").resolveOutputDir root settings.outputDir = .ok ["repo", "out"] ∧
        ∀ least,
          runTask around (disk "../repo/out") least (.validate "repo" none) =
              validateDirectory (disk "../repo/out") least ["repo", "out"] ∧
            runTask around (disk "../repo/out") least (.verify "repo" none) =
              verifyDirectory around (disk "../repo/out") least root ["repo", "out"] := by
  obtain ⟨settings, hloaded, hname⟩ := exists_settings "../repo/out" (by decide +kernel)
  have haccepted : (disk "../repo/out").resolveOutputDir root settings.outputDir =
      .ok ["repo", "out"] := by
    rw [hname]
    decide +kernel
  refine ⟨rfl, settings, hloaded, haccepted, fun least => ?_⟩
  exact ((runTask_without_directory around _ least rfl hloaded).1 _ haccepted).2.2

/-- A path that leaves the repository is refused, and still validation and verification look for
artifacts where it leads. -/
theorem runTask_escaping :
    around.place (disk "../elsewhere") "repo" = .ok root ∧
      ∃ settings, (disk "../elsewhere").loadSettings root = .ok settings ∧
        (disk "../elsewhere").resolveOutputDir root settings.outputDir =
          .error (.escapes "../elsewhere") ∧
        (runTask around (disk "../elsewhere") .warning (.validate "repo" none)).exit = .ok 1 ∧
        (runTask around (disk "../elsewhere") .warning (.validate "repo" none)).complaints =
          Text.ofString "/elsewhere: Artifacts directory does not exist.\n" ∧
        (runTask around (disk "../elsewhere") .warning (.verify "repo" none)).complaints =
          Text.ofString ("artifacts-dir: /elsewhere\n"
            ++ "error: Artifacts directory does not exist: /elsewhere\n") := by
  obtain ⟨settings, hloaded, hname⟩ := exists_settings "../elsewhere" (by decide +kernel)
  refine ⟨rfl, settings, hloaded, ?_, ?_, by decide +kernel, by decide +kernel⟩
  · rw [hname]
    decide +kernel
  · have hresolve : (disk "../elsewhere").resolve
        (root.path.join (Path.ofText settings.outputDir)) = .ok ["elsewhere"] := by
      rw [hname]
      decide +kernel
    rw [(checks_of_resolve .warning rfl hloaded hresolve).1, exit_validateDirectory]
    have hok : ((disk "../elsewhere").validate false (Place.path ["elsewhere"])).ok = false := by
      decide +kernel
    rw [hok]
    rfl

/-- Settings may name a directory with a null character in it. No command has an exit code then. -/
example :
    ((disk "a\\u0000b").resolveOutputDir root [0x61, 0, 0x62] matches
        .error (.unresolved .nullCharacter)) = true ∧
      ((runTask around (disk "a\\u0000b") .warning (.generate "repo" none)).exit matches
        .error (.outputDir (.unresolved .nullCharacter))) = true ∧
      ((runTask around (disk "a\\u0000b") .warning (.validate "repo" none)).exit matches
        .error (.unresolved .nullCharacter)) = true ∧
      ((runTask around (disk "a\\u0000b") .warning (.verify "repo" none)).exit matches
        .error (.unresolved .nullCharacter)) = true := by
  decide +kernel

end NamedOutput

end StoryCatalog
