import StoryCatalog.Catalog.Generate
import StoryCatalog.Proofs.Pointwise

/-!
# What a generation does

A generation that returns has made its directory, read its sources into a catalog and written both
files (`generateInto_cases`), and these parts make a generation when each of them succeeds
(`generateInto_eq`).
-/

namespace StoryCatalog

namespace Run

variable {α β : Type}

/-- A run of two parts returns when both do, and ends on the disk of the second. -/
theorem andThen_eq_ok {run : Run α} {next : Disk → α → Run β} {result : β}
    (h : (run.andThen next).result = .ok result) :
    ∃ value, run.result = .ok value ∧ (next run.disk value).result = .ok result ∧
      (run.andThen next).disk = (next run.disk value).disk := by
  unfold andThen at h ⊢
  split at h
  · cases h
  · rename_i value hvalue
    exact ⟨value, hvalue, h, rfl⟩

/-- A run of two parts fails when the first part fails, or the second part after the first. -/
theorem andThen_eq_error {run : Run α} {next : Disk → α → Run β} {failure : Failure}
    (h : (run.andThen next).result = .error failure) :
    run.result = .error failure ∨
      ∃ value, run.result = .ok value ∧ (next run.disk value).result = .error failure := by
  unfold andThen at h
  split at h
  · rename_i found hfound
    cases h
    exact .inl hfound
  · rename_i value hvalue
    exact .inr ⟨value, hvalue, h⟩

@[simp]
theorem result_report (run : Run α) (entry : α → LogEntry) :
    (run.report entry).result = run.result := by
  unfold report
  split
  · rfl
  · rfl

@[simp]
theorem disk_report (run : Run α) (entry : α → LogEntry) : (run.report entry).disk = run.disk := by
  unfold report
  split
  · rfl
  · rfl

end Run

/-- A disk operation that is part of a run and succeeds leaves its disk. -/
theorem change_ofDisk_eq_ok {disk : Disk} {path : Path} {x : Except DiskError Disk}
    (h : (Run.change disk (Failure.ofDisk path x)).result = .ok ()) :
    x = .ok (Run.change disk (Failure.ofDisk path x)).disk := by
  cases x with
  | error e => cases h
  | ok changed => rfl

/-- A result is known from what it was read from and where it was written. -/
theorem Generation.result_eq_ok {result : Except Failure Generation} {catalog : Catalog}
    {outDir : Path}
    (h : result.toOption.map (fun g => (g.catalog, g.outDir)) = some (catalog, outDir)) :
    result = .ok ⟨catalog, outDir⟩ := by
  cases result with
  | error e => cases h
  | ok g =>
      cases h
      rfl

/-- The files of a catalog that can be written have a text each. -/
theorem Catalog.exists_texts {catalog : Catalog} (hrecords : catalog.recordsText.2 = none)
    (hsummary : catalog.summaryText.isOk = true) :
    ∃ t u, catalog.recordsText = (t, none) ∧ catalog.summaryText = .ok u := by
  cases hu : catalog.summaryText with
  | error e =>
      rw [hu] at hsummary
      cases hsummary
  | ok u => exact ⟨_, u, Prod.ext rfl hrecords, rfl⟩

namespace Disk

variable {disk : Disk} {root : Place}

/-- A directory that was prepared is one that was made. -/
theorem prepare_eq_ok {outDir : Path} (h : (disk.prepare outDir).result = .ok ()) :
    disk.makeDirectories outDir = .ok (disk.prepare outDir).disk := by
  unfold prepare at h ⊢
  split at h
  · rename_i made hmade
    rw [hmade]
    rfl
  · cases h

/-- Records that were written are the whole text of the catalog's records. -/
theorem writeRecords_eq_ok {catalog : Catalog} {path : Path}
    (h : (disk.writeRecords catalog path).result = .ok ()) :
    ∃ t, catalog.recordsText = (t, none) ∧
      disk.write path t.utf8 = .ok (disk.writeRecords catalog path).disk := by
  unfold writeRecords at h ⊢
  generalize catalog.recordsText = written at h ⊢
  obtain ⟨t, fault⟩ := written
  obtain ⟨_, hchange, hfault, hdisk⟩ := Run.andThen_eq_ok h
  cases fault with
  | some e => cases hfault
  | none =>
      refine ⟨t, rfl, ?_⟩
      rw [hdisk]
      exact change_ofDisk_eq_ok hchange

/-- A summary that was written is the whole text of the catalog's summary. -/
theorem writeSummary_eq_ok {catalog : Catalog} {path : Path}
    (h : (disk.writeSummary catalog path).result = .ok ()) :
    ∃ t, catalog.summaryText = .ok t ∧
      disk.write path t.utf8 = .ok (disk.writeSummary catalog path).disk := by
  unfold writeSummary at h ⊢
  split at h
  · cases h
  · rename_i t ht
    rw [ht]
    exact ⟨t, rfl, change_ofDisk_eq_ok h⟩

/-- Reading a catalog leaves the disk as it is. -/
@[simp]
theorem disk_catalog [SourceAccess] (outDir : Path) (settings : Settings) :
    (disk.catalog root outDir settings).disk = disk := by
  unfold catalog
  split
  · rfl
  · split
    · rfl
    · rfl

/-- The contributions of the sources make the catalog. -/
theorem catalog_of_contributions [SourceAccess] {outDir : Path} {settings : Settings}
    {sources : List Source}
    {parts : List Contribution}
    (hsources : disk.sources root (settings.selection root outDir) = .ok sources)
    (hparts : (contributions settings.readingStyle sources).2 = .ok parts) :
    (disk.catalog root outDir settings).result = .ok (.ofContributions parts) := by
  rw [catalog, hsources]
  dsimp only
  rw [show contributions settings.readingStyle sources = (_, .ok parts) from Prod.ext rfl hparts]

/-- A generation into a directory that returns has made the directory, read a catalog, and written
the records and then the summary. -/
theorem generateInto_cases [SourceAccess] {outDir : Path} {settings : Settings} {g : Generation}
    (h : (disk.generateInto root outDir settings).result = .ok g) :
    ∃ prepared recorded t u, g.outDir = outDir ∧ disk.makeDirectories outDir = .ok prepared ∧
      (prepared.catalog root outDir settings).result = .ok g.catalog ∧
      g.catalog.recordsText = (t, none) ∧
      prepared.write (outDir.child storiesFile) t.utf8 = .ok recorded ∧
      g.catalog.summaryText = .ok u ∧
      recorded.write (outDir.child summaryFile) u.utf8 =
        .ok (disk.generateInto root outDir settings).disk := by
  -- each part is peeled off in turn, and the disk it leaves is the one the next part starts from
  simp only [generateInto, Run.result_report, Run.disk_report] at h ⊢
  obtain ⟨_, hprepare, h, hdisk⟩ := Run.andThen_eq_ok h
  rw [hdisk]
  obtain ⟨catalog, hcatalog, h, hdisk⟩ := Run.andThen_eq_ok h
  rw [hdisk]
  simp only [disk_catalog] at h ⊢
  obtain ⟨_, hrecords, h, hdisk⟩ := Run.andThen_eq_ok h
  rw [hdisk]
  obtain ⟨_, hsummary, h, hdisk⟩ := Run.andThen_eq_ok h
  rw [hdisk]
  cases h
  obtain ⟨t, ht, hrecords⟩ := writeRecords_eq_ok hrecords
  obtain ⟨u, hu, hsummary⟩ := writeSummary_eq_ok hsummary
  exact ⟨_, _, t, u, rfl, prepare_eq_ok hprepare, hcatalog, ht, hrecords, hu, hsummary⟩

/-- A generation that returns has loaded settings, found its directory and generated into it. -/
theorem exists_of_generate_eq_ok [SourceAccess] {outDir : Option Path} {settings : Option Settings}
    {g : Generation} (h : (disk.generate root outDir settings).result = .ok g) :
    ∃ loaded path, disk.settingsOr root settings = .ok loaded ∧
      disk.outputDir root loaded outDir = .ok path ∧
      (disk.generateInto root path loaded).result = .ok g ∧
      (disk.generate root outDir settings).disk = (disk.generateInto root path loaded).disk := by
  unfold generate at h ⊢
  obtain ⟨loaded, hloaded, h, hdisk⟩ := Run.andThen_eq_ok h
  rw [hdisk]
  obtain ⟨path, hpath, h, hdisk⟩ := Run.andThen_eq_ok h
  rw [hdisk]
  exact ⟨loaded, path, hloaded, hpath, h, rfl⟩

/-- All parts of a generation that returns. -/
theorem generate_cases [SourceAccess] {outDir : Option Path} {settings : Option Settings}
    {g : Generation}
    (h : (disk.generate root outDir settings).result = .ok g) :
    ∃ loaded prepared recorded t u, disk.settingsOr root settings = .ok loaded ∧
      disk.makeDirectories g.outDir = .ok prepared ∧
      (prepared.catalog root g.outDir loaded).result = .ok g.catalog ∧
      g.catalog.recordsText = (t, none) ∧
      prepared.write (g.outDir.child storiesFile) t.utf8 = .ok recorded ∧
      g.catalog.summaryText = .ok u ∧
      recorded.write (g.outDir.child summaryFile) u.utf8 =
        .ok (disk.generate root outDir settings).disk := by
  obtain ⟨loaded, path, hloaded, _, h, hdisk⟩ := exists_of_generate_eq_ok h
  obtain ⟨prepared, recorded, t, u, rfl, hparts⟩ := generateInto_cases h
  rw [hdisk]
  exact ⟨loaded, prepared, recorded, t, u, hloaded, hparts⟩

theorem prepare_of_makeDirectories {path : Path} {prepared : Disk}
    (h : disk.makeDirectories path = .ok prepared) : disk.prepare path = .pure prepared () := by
  rw [prepare, h]

/-- The same parts, when each of them succeeds, make a generation. -/
theorem generateInto_eq [SourceAccess] {path : Path} {settings : Settings}
    {prepared recorded final : Disk}
    {catalog : Catalog} {t u : Text} (hprepared : disk.makeDirectories path = .ok prepared)
    (hcatalog : (prepared.catalog root path settings).result = .ok catalog)
    (ht : catalog.recordsText = (t, none))
    (hrecords : prepared.write (path.child storiesFile) t.utf8 = .ok recorded)
    (hu : catalog.summaryText = .ok u)
    (hsummary : recorded.write (path.child summaryFile) u.utf8 = .ok final) :
    disk.generateInto root path settings =
      ⟨final, (prepared.catalog root path settings).log ++ [Generation.logEntry ⟨catalog, path⟩],
        .ok ⟨catalog, path⟩⟩ := by
  have hprepare := prepare_of_makeDirectories hprepared
  have hwriteRecords : prepared.writeRecords catalog (path.child storiesFile) =
      .pure recorded () := by
    rw [writeRecords, ht]
    simp only [hrecords, Failure.ofDisk, Run.change, Run.andThen, Run.pure, List.append_nil]
  have hwriteSummary : recorded.writeSummary catalog (path.child summaryFile) =
      .pure final () := by
    rw [writeSummary, hu]
    simp only [hsummary, Failure.ofDisk, Run.change, Run.pure]
  simp only [generateInto, Run.andThen, Run.report, Run.pure, hprepare, hcatalog, disk_catalog,
    hwriteRecords, hwriteSummary, List.nil_append, List.append_nil]

/-- Such a generation returns, and leaves the disk of its last part. -/
theorem generateInto_eq_ok [SourceAccess] {path : Path} {settings : Settings}
    {prepared recorded final : Disk}
    {catalog : Catalog} {t u : Text} (hprepared : disk.makeDirectories path = .ok prepared)
    (hcatalog : (prepared.catalog root path settings).result = .ok catalog)
    (ht : catalog.recordsText = (t, none))
    (hrecords : prepared.write (path.child storiesFile) t.utf8 = .ok recorded)
    (hu : catalog.summaryText = .ok u)
    (hsummary : recorded.write (path.child summaryFile) u.utf8 = .ok final) :
    (disk.generateInto root path settings).result = .ok ⟨catalog, path⟩ ∧
      (disk.generateInto root path settings).disk = final := by
  rw [generateInto_eq hprepared hcatalog ht hrecords hu hsummary]
  exact ⟨rfl, rfl⟩

/-- A generation is one into its directory, with the settings that hold. -/
theorem generate_eq_generateInto [SourceAccess] {outDir : Option Path} {settings : Option Settings}
    {loaded : Settings} {path : Path} (hloaded : disk.settingsOr root settings = .ok loaded)
    (hpath : disk.outputDir root loaded outDir = .ok path) :
    disk.generate root outDir settings = disk.generateInto root path loaded := by
  simp only [generate, Run.look, Run.andThen, hloaded, hpath, List.nil_append]

end Disk

end StoryCatalog
