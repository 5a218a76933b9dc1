import StoryCatalog.Proofs.Catalog.Generation
import StoryCatalog.Proofs.Scan.Added

/-!
# Artifacts in a directory of their own

When a generation into a vacant place returns, it has added directories and the two artifacts to the
disk (`exists_addsArtifacts`). They are what is listed in the output directory, also after more has
been added elsewhere (`AddsArtifacts.listing_eq`). A generation into a free place of a directory
does return if its catalog can be read and written (`generateInto_of_vacant`).
-/

namespace StoryCatalog

/-- The files of a catalog in a directory. -/
def artifactEntries (place : Place) (records summary : Bytes) : List (Place × Node) :=
  [(place ++ [Text.ofString storiesFile], .file records),
    (place ++ [Text.ofString summaryFile], .file summary)]

theorem prefix_of_mem_artifactEntries {place : Place} {records summary : Bytes}
    {entry : Place × Node} (h : entry ∈ artifactEntries place records summary) :
    place <+: entry.1 := by
  simp only [artifactEntries, List.mem_cons, List.not_mem_nil, or_false] at h
  rcases h with rfl | rfl
  · exact List.prefix_append place _
  · exact List.prefix_append place _

/-- When its directory is all that was made for artifacts, all that is new lies there. -/
theorem prefix_of_mem_append_artifactEntries {place : Place} {records summary : Bytes}
    {entry : Place × Node}
    (h : entry ∈ [(place, Node.directory)] ++ artifactEntries place records summary) :
    place <+: entry.1 := by
  rcases List.mem_append.mp h with h | h
  · cases List.mem_singleton.mp h
    exact List.prefix_rfl
  · exact prefix_of_mem_artifactEntries h

namespace Disk

/-- A path leads to a directory that was made in a vacant place and holds two artifacts. Apart from
them, only directories are new. -/
structure AddsArtifacts (disk : Disk) (path : Path) (place : Place) (folders : List (Place × Node))
    (records summary : Bytes) (after : Disk) : Prop where
  adds : disk.Adds (folders ++ artifactEntries place records summary) after
  folders : ∀ entry ∈ folders, entry.2 = Node.directory
  vacant : disk.Vacant place
  locate : after.locate path = .ok place
  directory : after.get? place = some .directory

variable {disk after : Disk} {root place : Place} {outDir : Path}
  {folders : List (Place × Node)} {records summary : Bytes} {settings : Settings} {g : Generation}

/-- The artifacts are what is listed there, also after more has been added elsewhere. -/
theorem AddsArtifacts.listing_eq {others : List (Place × Node)} {final : Disk}
    (h : disk.AddsArtifacts outDir place folders records summary after)
    (hadds : after.Adds others final) (hothers : ∀ entry ∈ others, ¬place <+: entry.1) :
    final.listing outDir =
      [(Text.ofString storiesFile, records), (Text.ofString summaryFile, summary)] :=
  (h.adds.trans hadds).listing_eq h.vacant h.folders hothers (hadds.locate_eq h.locate)
    (hadds.get?_of_some h.directory)

/-- Directories and artifacts are no files with another name. -/
theorem AddsArtifacts.noFileNamed
    (h : disk.AddsArtifacts outDir place folders records summary after) {name : Name}
    (hname : name ∉ [Text.ofString storiesFile, Text.ofString summaryFile]) :
    NoFileNamed (folders ++ artifactEntries place records summary) name := by
  intro spot content hmem
  rcases List.mem_append.mp hmem with hmem | hmem
  · cases h.folders _ hmem
  · simp only [artifactEntries, List.mem_cons, Prod.mk.injEq, List.not_mem_nil, or_false]
      at hmem hname
    rcases hmem with ⟨rfl, _⟩ | ⟨rfl, _⟩
    · rw [List.getLast?_concat]
      exact fun heq => hname (.inl (Option.some.inj heq).symm)
    · rw [List.getLast?_concat]
      exact fun heq => hname (.inr (Option.some.inj heq).symm)

/-- Both scans read the same ignore files. -/
theorem AddsArtifacts.exists_ignoring
    (h : disk.AddsArtifacts outDir place folders records summary after)
    (hfirm : disk.Firm root ignoreFileName) {selection : Selection} {sources : List Source}
    (hsources : disk.sources root selection = .ok sources) :
    ∃ ignoring, disk.ignoreFiles root selection.nestedIgnore = .ok ignoring ∧
      after.ignoreFiles root selection.nestedIgnore = .ok ignoring := by
  obtain ⟨ignoring, hignoring, _⟩ := exists_of_sources_eq_ok hsources
  refine ⟨ignoring, hignoring, ?_⟩
  rw [h.adds.ignoreFiles_eq hfirm (h.noFileNamed (by decide)), hignoring]

/-- A scan for other suffixes does not find the artifacts. -/
theorem AddsArtifacts.sources_eq (h : disk.AddsArtifacts outDir place folders records summary after)
    (hfirm : disk.Firm root ignoreFileName) {selection : Selection}
    (hextension : ∀ file ∈ [Text.ofString storiesFile, Text.ofString summaryFile],
      selection.hasExtension [file] = false) :
    after.sources root selection = disk.sources root selection := by
  refine h.adds.sources_eq_of_unselected ?_
    (h.adds.ignoreFiles_eq hfirm (h.noFileNamed (by decide)) _)
  intro names content hne hmem
  obtain ⟨front, last, rfl⟩ := List.eq_nil_or_concat' names |>.resolve_left hne
  have hlast : selection.hasExtension (front ++ [last]) = selection.hasExtension [last] := by
    simp [Selection.hasExtension]
  rw [hlast]
  rcases List.mem_append.mp hmem with hmem | hmem
  · cases h.folders _ hmem
  · simp only [artifactEntries, List.mem_cons, Prod.mk.injEq, List.not_mem_nil, or_false,
      ← List.append_assoc, List.append_singleton_inj] at hmem
    rcases hmem with ⟨⟨_, rfl⟩, _⟩ | ⟨⟨_, rfl⟩, _⟩
    · exact hextension _ List.mem_cons_self
    · exact hextension _ (by simp)

/-- A file that is written into a directory in a place that was vacant is added there. -/
theorem Adds.write_child {changed written : Disk} {added : List (Place × Node)}
    (h : disk.Adds added changed) (hvacant : disk.Vacant place) {path : Path}
    (hlocate : changed.locate path = .ok place)
    (hdirectory : changed.get? place = some .directory) {name : Name} (hname : name ≠ Name.above)
    (hadded : ∀ content, (place ++ [name], Node.file content) ∉ added) {content : Bytes}
    (hwrite : changed.write (path.child name) content = .ok written) :
    changed.Adds [(place ++ [name], .file content)] written := by
  have hnew : ∀ node, changed.get? (place ++ [name]) = some node →
      (place ++ [name], node) ∈ added := by
    intro node hget
    rcases h.get?_eq_some_iff.mp hget with hold | ⟨_, hmem⟩
    · rw [hvacant [name]] at hold
      cases hold
    · exact hmem
  have hchild := locate_child hlocate hdirectory hname
    fun target hget => h.notLink _ (hnew _ hget) target rfl
  have hfree := free_of_write hwrite hchild fun content hget => hadded content (hnew _ hget)
  obtain ⟨hput, hadds⟩ := write_child_of_free hlocate hdirectory hname hfree content
  cases hput.symm.trans hwrite
  exact hadds

/-- The output directory is found once it is made, and still after the files are written. -/
theorem exists_locate_of_generateInto [SourceAccess]
    (h : (disk.generateInto root outDir settings).result = .ok g) {prepared : Disk}
    (hprepared : disk.makeDirectories outDir = .ok prepared) :
    ∃ place, prepared.locate outDir = .ok place ∧
      (disk.generateInto root outDir settings).disk.locate outDir = .ok place := by
  obtain ⟨_, recorded, t, u, _, hmade, _, _, hrecords, _, hsummary⟩ := generateInto_cases h
  cases hprepared.symm.trans hmade
  obtain ⟨_, hstories, -⟩ := write_cases hrecords
  obtain ⟨place, hleads, _⟩ := (locate_eq_ok_iff.mp hstories).directory
  have hlocate : prepared.locate outDir = .ok place := locate_eq_ok_iff.mpr hleads
  exact ⟨place, hlocate, locate_write hsummary (locate_write hrecords hlocate)⟩

/-- A generation into a vacant place adds directories and the two files. -/
theorem generateInto_adds [SourceAccess]
    (h : (disk.generateInto root outDir settings).result = .ok g) {prepared : Disk}
    (hprepared : disk.makeDirectories outDir = .ok prepared)
    (hadds : disk.Adds folders prepared) (hfolders : ∀ entry ∈ folders, entry.2 = Node.directory)
    (hlocate : prepared.locate outDir = .ok place) (hvacant : disk.Vacant place) :
    ∃ t u, (prepared.catalog root outDir settings).result = .ok g.catalog ∧
      g.catalog.recordsText = (t, none) ∧ g.catalog.summaryText = .ok u ∧
      disk.AddsArtifacts outDir place folders t.utf8 u.utf8
        (disk.generateInto root outDir settings).disk := by
  obtain ⟨_, recorded, t, u, _, hmade, hcatalog, ht, hrecords, hu, hsummary⟩ :=
    generateInto_cases h
  cases hprepared.symm.trans hmade
  have hdirectory : prepared.get? place = some .directory := by
    obtain ⟨_, hstories, -⟩ := write_cases hrecords
    have hnode := node?_of_locate_child hstories
    rwa [node?, hlocate] at hnode
  have hnone : ∀ name content, (place ++ [name], Node.file content) ∉ folders := by
    intro name content hmem
    cases hfolders _ hmem
  -- below the vacant place nothing but directories was made, so neither name was taken by a file
  have hfirst := hadds.write_child hvacant hlocate hdirectory (by decide) (hnone _) hrecords
  have hsecond := (hadds.trans hfirst).write_child hvacant (hfirst.locate_eq hlocate)
    (hfirst.get?_of_some hdirectory) (by decide) ?_ hsummary
  · have hboth := hfirst.trans hsecond
    exact ⟨t, u, hcatalog, ht, hu, hadds.trans hboth, hfolders, hvacant, hboth.locate_eq hlocate,
      hboth.get?_of_some hdirectory⟩
  · intro content hmem
    rcases List.mem_append.mp hmem with hmem | hmem
    · exact hnone _ _ hmem
    · rw [List.mem_singleton, Prod.mk.injEq] at hmem
      have hnames : [Text.ofString summaryFile] = [Text.ofString storiesFile] :=
        List.append_cancel_left hmem.1
      exact absurd hnames (by decide)

/-- A generation into a free place makes the one directory there. -/
theorem generateInto_adds_of_vacant [SourceAccess]
    (h : (disk.generateInto root outDir settings).result = .ok g)
    (hplace : disk.locateLast outDir = .ok place) (hvacant : disk.Vacant place) :
    ∃ t u, ((disk.put place .directory).catalog root outDir settings).result = .ok g.catalog ∧
      g.catalog.recordsText = (t, none) ∧ g.catalog.summaryText = .ok u ∧
      disk.AddsArtifacts outDir place [(place, .directory)] t.utf8 u.utf8
        (disk.generateInto root outDir settings).disk := by
  obtain ⟨hprepared, hadds, hlocate, _⟩ := makeDirectories_of_free hplace hvacant.get?_eq_none
  exact generateInto_adds h hprepared hadds (by simp) hlocate hvacant

/-- A generation returns when its directory can be made in a vacant place and its catalog can be
read and written. -/
theorem generateInto_of_vacant [SourceAccess]
    (hplace : disk.locateLast outDir = .ok place) (hvacant : disk.Vacant place) {catalog : Catalog}
    (hcatalog : ((disk.put place .directory).catalog root outDir settings).result = .ok catalog)
    {t u : Text} (ht : catalog.recordsText = (t, none)) (hu : catalog.summaryText = .ok u) :
    (disk.generateInto root outDir settings).result = .ok ⟨catalog, outDir⟩ ∧
      disk.AddsArtifacts outDir place [(place, .directory)] t.utf8 u.utf8
        (disk.generateInto root outDir settings).disk := by
  obtain ⟨hprepared, hadds, hlocate, hdirectory⟩ :=
    makeDirectories_of_free hplace hvacant.get?_eq_none
  have hfree : (disk.put place .directory).get? (place ++ [Text.ofString storiesFile]) = none :=
    hadds.get?_eq_none (hvacant _) (by simp)
  obtain ⟨hrecords, hfirst⟩ := write_child_of_free hlocate hdirectory (by decide) hfree t.utf8
  have hfree : ((disk.put place .directory).put (place ++ [Text.ofString storiesFile])
      (.file t.utf8)).get? (place ++ [Text.ofString summaryFile]) = none := by
    refine (hadds.trans hfirst).get?_eq_none (hvacant _) ?_
    intro node hmem
    simp only [List.singleton_append, List.mem_cons, Prod.mk.injEq, List.not_mem_nil, or_false,
      List.append_cancel_left_eq, List.append_right_eq_self] at hmem
    rcases hmem with ⟨hnil, _⟩ | ⟨hnames, _⟩
    · cases hnil
    · exact absurd hnames (by decide)
  obtain ⟨hsummary, _⟩ := write_child_of_free (hfirst.locate_eq hlocate)
    (hfirst.get?_of_some hdirectory) (by decide) hfree u.utf8
  have hresult := (generateInto_eq_ok hprepared hcatalog ht hrecords hu hsummary).1
  refine ⟨hresult, ?_⟩
  obtain ⟨_, _, _, ht', hu', hartifacts⟩ := generateInto_adds_of_vacant hresult hplace hvacant
  cases ht.symm.trans ht'
  cases hu.symm.trans hu'
  exact hartifacts

/-- Catalogs of the same sources are the same, and so is what is reported of them. -/
theorem catalog_congr [SourceAccess] {other : Disk} {path : Path}
    (h : disk.sources root (settings.selection root outDir) =
      other.sources root (settings.selection root path)) :
    disk.catalog root outDir settings =
      ⟨disk, (other.catalog root path settings).log,
        (other.catalog root path settings).result⟩ := by
  unfold catalog
  rw [h]
  split
  · rfl
  · split
    · rfl
    · rfl

theorem result_catalog_congr [SourceAccess] {other : Disk} {path : Path}
    (h : disk.sources root (settings.selection root outDir) =
      other.sources root (settings.selection root path)) :
    (disk.catalog root outDir settings).result = (other.catalog root path settings).result := by
  rw [catalog_congr h]

/-- A fresh generation reads its catalog from the disk as it was, and adds its artifacts. -/
theorem exists_addsArtifacts [SourceAccess]
    (h : (disk.generateInto root outDir settings).result = .ok g)
    (hfirm : disk.Firm root ignoreFileName)
    (hfresh : ∀ place, (disk.generateInto root outDir settings).disk.locate outDir = .ok place →
      disk.Vacant place) :
    ∃ place folders t u, (disk.catalog root outDir settings).result = .ok g.catalog ∧
      g.catalog.recordsText = (t, none) ∧ g.catalog.summaryText = .ok u ∧
      disk.AddsArtifacts outDir place folders t.utf8 u.utf8
        (disk.generateInto root outDir settings).disk := by
  obtain ⟨prepared, _, _, _, _, hprepared, _⟩ := generateInto_cases h
  obtain ⟨folders, hadds, hfolders⟩ := addsDirectories_makeDirectories hprepared
  obtain ⟨place, hlocate, hplace⟩ := exists_locate_of_generateInto h hprepared
  obtain ⟨t, u, hcatalog, ht, hu, hartifacts⟩ :=
    generateInto_adds h hprepared hadds hfolders hlocate (hfresh place hplace)
  refine ⟨place, folders, t, u, ?_, ht, hu, hartifacts⟩
  rw [← hcatalog]
  refine result_catalog_congr (hadds.sources_eq_of_unselected ?_ ?_).symm
  · intro names content _ hmem
    cases hfolders _ hmem
  · exact hadds.ignoreFiles_eq hfirm (noFileNamed_of_directories hfolders _) _

end Disk

end StoryCatalog
