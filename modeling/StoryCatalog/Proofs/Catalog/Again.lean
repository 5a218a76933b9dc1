import StoryCatalog.Proofs.Catalog.Artifacts
import StoryCatalog.Proofs.Catalog.Fresh
import StoryCatalog.Proofs.Disk.Overwrite

/-!
# Generating again

The artifacts that a generation leaves behind are not seen by the next one: they lie outside the
root or below the name that is left out (`leavesOut_artifact`), so the same sources are found
(`sources_write`). Generating again is then the same run, with the same result and the same log, and
the disk stays as it is (`generate_generate`). The one way in which the artifacts can be seen is
through a link from the ignore file of the root.
-/

namespace StoryCatalog

/-- The names of the artifacts. -/
def artifactNames : List Name := [storiesFile, summaryFile].map Text.ofString

/-- A scan does not look at a place: an ignore file there would be none, and a file there is not
admitted. -/
def Selection.LeavesOut (selection : Selection) (root spot : Place) : Prop :=
  ∀ names, names ≠ [] → spot = root ++ names →
    names.getLast? ≠ some ignoreFileName ∧
      ∀ ignoring, selection.admits ignoring names = false

/-- The first name on the way from a root to a place below it. -/
theorem Place.firstBelow_path (root : Place) (name : Name) (rest : List Name) :
    (Place.path (root ++ name :: rest)).firstBelow root.path = name := by
  rw [Path.firstBelow, Place.below?_path]

namespace Disk

variable {disk changed : Disk} {root outDir : Place} {path : Path} {spot : Place}
  {content : Bytes} {selection : Selection} {settings : Settings} {g : Generation}

/-! ## What a scan does not see -/

theorem ignoreContents_write (h : disk.write path content = .ok changed)
    (hspot : disk.locate path = .ok spot) (hleft : selection.LeavesOut root spot)
    (hignore : selection.nestedIgnore = false →
      changed.locate (root.path.child ignoreFileName) ≠ .ok spot) :
    changed.ignoreContents root selection.nestedIgnore =
      disk.ignoreContents root selection.nestedIgnore := by
  cases hnested : selection.nestedIgnore with
  | false =>
      rw [ignoreContents, if_neg Bool.false_ne_true, ignoreContents, if_neg Bool.false_ne_true,
        content?_write_eq h hspot (hignore hnested)]
  | true =>
      obtain ⟨_, hplace, _, _, rfl⟩ := write_cases h
      cases hspot.symm.trans hplace
      rw [ignoreContents, if_pos rfl, ignoreContents, if_pos rfl]
      dsimp only
      rw [filterMap_below_put]
      intro names node hne heq
      cases node with
      | link target => rfl
      | directory => rfl
      | file content => exact if_neg (hleft names hne heq).1

/-- A write to a place that a scan does not look at leaves the sources as they were. -/
theorem sources_write (h : disk.write path content = .ok changed)
    (hspot : disk.locate path = .ok spot) (hleft : selection.LeavesOut root spot)
    (hignore : selection.nestedIgnore = false →
      changed.locate (root.path.child ignoreFileName) ≠ .ok spot) :
    changed.sources root selection = disk.sources root selection := by
  have hfiles : changed.ignoreFiles root selection.nestedIgnore =
      disk.ignoreFiles root selection.nestedIgnore := by
    rw [ignoreFiles, ignoreFiles, ignoreContents_write h hspot hleft hignore]
  cases hignoring : disk.ignoreFiles root selection.nestedIgnore with
  | error fault =>
      rw [hignoring] at hfiles
      rw [sources, sources, hfiles, hignoring]
      rfl
  | ok ignoring =>
      rw [hignoring] at hfiles
      rw [sources_of_ignoreFiles hfiles, sources_of_ignoreFiles hignoring]
      obtain ⟨_, hplace, _, _, rfl⟩ := write_cases h
      cases hspot.symm.trans hplace
      rw [filterMap_below_put]
      intro names node hne heq
      rw [Option.eq_none_iff_forall_ne_some]
      intro source hsource
      obtain ⟨hentry, _, hadmits⟩ := Selection.source?_eq_some_iff.mp hsource
      cases hentry
      rw [(hleft _ hne heq).2 ignoring] at hadmits
      cases hadmits

/-! ## Resolved places -/

/-- A resolved place: its names lead downwards, and no link stands on the way or at its end. -/
structure Resolved (disk : Disk) (place : Place) : Prop where
  steps : ∀ name ∈ place, name ≠ [] ∧ name ≠ Name.above
  notLink : ∀ front, front <+: place → ∀ target, disk.get? front ≠ some (.link target)

/-- A path to a resolved place leads nowhere else, also when the disk has grown. -/
theorem Resolved.eq_of_locate {place reached : Place} (h : disk.Resolved place)
    {added : List (Place × Node)} (hadds : disk.Adds added changed)
    (hlocate : changed.locate place.path = .ok reached) : reached = place := by
  refine (locate_eq_ok_iff.mp hlocate).eq_append ?_ ?_
  · exact fun habove => (h.steps _ habove).2 rfl
  · intro front hfront target hget
    exact h.notLink front hfront target (hadds.link_of_some hget)

/-- The places of the artifacts are resolved when no entry on the way to them is a link. -/
theorem resolved_of_entries
    (h : ∀ file ∈ artifactNames, (∀ name ∈ outDir ++ [file], name ≠ [] ∧ name ≠ Name.above) ∧
      ∀ entry ∈ disk.entries, entry.1 <+: outDir ++ [file] →
        (entry.2 matches .link _) = false) :
    ∀ file ∈ artifactNames, disk.Resolved (outDir ++ [file]) := by
  intro file hfile
  obtain ⟨hsteps, hentries⟩ := h file hfile
  refine ⟨hsteps, ?_⟩
  intro front hfront target hget
  have hne : front ≠ [] := by
    rintro rfl
    cases hget
  cases hentries _ ((get?_eq_some_iff hne).mp hget) hfront

/-- When the artifacts go to a resolved place that is not the root, a scan does not look at them. -/
theorem leavesOut_artifact (hsteps : ∀ name ∈ outDir, name ≠ []) (hroot : outDir ≠ root)
    {file : Name} (hfile : file ≠ ignoreFileName) :
    (settings.selection root outDir.path).LeavesOut root (outDir ++ [file]) := by
  intro names hne heq
  obtain ⟨front, last, rfl⟩ := List.eq_nil_or_concat' names |>.resolve_left hne
  rw [← List.append_assoc, List.append_singleton_inj] at heq
  obtain ⟨rfl, rfl⟩ := heq
  refine ⟨?_, fun ignoring => ?_⟩
  · rw [List.getLast?_concat]
    exact fun heq => hfile (Option.some.inj heq)
  · cases front with
    | nil => exact absurd (List.append_nil root) hroot
    | cons name rest =>
        have hname : name ≠ [] := hsteps name (by simp)
        simp [Selection.admits, Settings.selection, Place.firstBelow_path, hname]

/-! ## The second run -/

/-- The two artifacts stay where they were written, each with its own content. -/
theorem get?_of_writes {recorded final : Disk} {first second : Path} {place spot : Place}
    {records summary : Bytes} (hrecords : disk.write first records = .ok recorded)
    (hsummary : recorded.write second summary = .ok final)
    (hplace : disk.locate first = .ok place) (hspot : recorded.locate second = .ok spot)
    (hne : place ≠ spot) :
    final.get? place = some (.file records) ∧ final.get? spot = some (.file summary) := by
  have hfirst := content?_write_self hrecords
  have hsecond := content?_write_self hsummary
  have hkept := content?_write_of_ne hsummary hspot (locate_write hrecords hplace) hne hfirst
  exact ⟨(content?_eq_some_iff (locate_write hsummary (locate_write hrecords hplace))).mp hkept,
    (content?_eq_some_iff (locate_write hsummary hspot)).mp hsecond⟩

/-- Whatever the repository and its settings: when a generation into a directory other than the root
returns, generating again is the same run, and it leaves the disk as it is. The output directory is
resolved and no artifact is a link, nor does the ignore file of the root lead to an artifact, unless
every ignore file counts. -/
theorem generate_generate [SourceAccess] (disk : Disk) (root outDir : Place) (settings : Settings)
    {g : Generation}
    (h : (disk.generate root (some outDir.path) (some settings)).result = .ok g)
    (hroot : outDir ≠ root)
    (hresolved : ∀ file ∈ artifactNames, disk.Resolved (outDir ++ [file]))
    (hignore : settings.nestedIgnore = false → ∀ file ∈ artifactNames,
      (disk.generate root (some outDir.path) (some settings)).disk.locate
        (root.path.child ignoreFileName) ≠ .ok (outDir ++ [file])) :
    (disk.generate root (some outDir.path) (some settings)).disk.generate root (some outDir.path)
        (some settings) =
      disk.generate root (some outDir.path) (some settings) := by
  simp only [generate_eq_generateInto (rfl : settingsOr _ root (some settings) = .ok settings)
    (rfl : outputDir _ root settings (some outDir.path) = .ok outDir.path)] at h hignore ⊢
  obtain ⟨prepared, recorded, t, u, -, hprepared, hcatalog, ht, hrecords, hu, hsummary⟩ :=
    generateInto_cases h
  have hfirst := generateInto_eq hprepared hcatalog ht hrecords hu hsummary
  generalize (disk.generateInto root outDir.path settings).disk = final at hsummary hignore hfirst ⊢
  -- each artifact was written to its own place
  obtain ⟨folders, hadds, -⟩ := addsDirectories_makeDirectories hprepared
  obtain ⟨place, hplace, -⟩ := write_cases hrecords
  obtain ⟨spot, hspot, -⟩ := write_cases hsummary
  have hplaceEq : place = outDir ++ [Text.ofString storiesFile] :=
    (hresolved _ (by simp [artifactNames])).eq_of_locate hadds hplace
  have hspotEq : spot = outDir ++ [Text.ofString summaryFile] :=
    (hresolved _ (by simp [artifactNames])).eq_of_locate hadds
      ((locate_write_iff hrecords).mp hspot)
  have hne : place ≠ spot := by
    rw [hplaceEq, hspotEq, ne_eq, List.append_right_inj]
    decide
  obtain ⟨hrecordsThere, hsummaryThere⟩ := get?_of_writes hrecords hsummary hplace hspot hne
  -- neither place is looked at, so the second scan finds the sources of the first
  have hsteps : ∀ name ∈ outDir, name ≠ [] := fun name hname =>
    ((hresolved (Text.ofString storiesFile) (by simp [artifactNames])).steps name
      (List.mem_append_left _ hname)).1
  have hsources : final.sources root (settings.selection root outDir.path) =
      prepared.sources root (settings.selection root outDir.path) := by
    rw [sources_write hsummary hspot, sources_write hrecords hplace]
    · rw [hplaceEq]
      exact leavesOut_artifact hsteps hroot (by decide)
    · intro hnested hlocate
      rw [hplaceEq] at hlocate
      exact hignore hnested _ (by simp [artifactNames]) (locate_write hsummary hlocate)
    · rw [hspotEq]
      exact leavesOut_artifact hsteps hroot (by decide)
    · intro hnested
      rw [hspotEq]
      exact hignore hnested _ (by simp [artifactNames])
  -- and making, reading and writing what is there already leaves the disk as it is
  have hplaceFinal := locate_write hsummary (locate_write hrecords hplace)
  have hspotFinal := locate_write hsummary hspot
  have hcatalogFinal := (result_catalog_congr hsources).trans hcatalog
  rw [hfirst, generateInto_eq (makeDirectories_of_directory (node?_of_locate_child hplaceFinal))
    hcatalogFinal ht (write_of_content hplaceFinal hrecordsThere) hu
    (write_of_content hspotFinal hsummaryThere), catalog_congr hsources]

end Disk

/-! The repository with one story, when files with the suffixes of the artifacts are sources. -/

namespace OneStory

open SourceAccess

def outPlace : Place := ["repo", ".storymap"]

def wide : Settings :=
  { settings with extensions := [".js", ".jsonl", ".json"] }

theorem catalog_wide : (disk.catalog root outPlace.path wide).result = .ok catalog :=
  Disk.catalog_of_contributions
    (Disk.sources_eq_ok rfl (by decide +kernel) (by decide +kernel)) contributions_eq

theorem generate_wide : ∃ records summary,
    (disk.generate root (some outPlace.path) (some wide)).result = .ok ⟨catalog, outDir⟩ ∧
      (disk.generate root (some outPlace.path) (some wide)).disk = written records summary := by
  obtain ⟨t, u, ht, hu⟩ := exists_texts
  rw [Disk.generate_eq_generateInto (rfl : Disk.settingsOr disk root (some wide) = .ok wide)
    (rfl : Disk.outputDir disk root wide (some outPlace.path) = .ok outPlace.path)]
  exact ⟨_, _, Disk.generateInto_eq_ok rfl catalog_wide ht rfl hu rfl⟩

/-- The artifacts are wanted for their suffixes, and still they are not read when the repository is
generated again. -/
theorem generate_generate_wide :
    (∀ file ∈ artifactNames, (wide.selection root outPlace.path).hasExtension
        [".storymap", file] = true) ∧
      (disk.generate root (some outPlace.path) (some wide)).result = .ok ⟨catalog, outDir⟩ ∧
      (disk.generate root (some outPlace.path) (some wide)).disk.generate root (some outPlace.path)
          (some wide) =
        disk.generate root (some outPlace.path) (some wide) := by
  obtain ⟨records, summary, hresult, hdisk⟩ := generate_wide
  refine ⟨by decide +kernel, hresult, ?_⟩
  refine Disk.generate_generate disk root outPlace wide hresult (by decide)
    (Disk.resolved_of_entries (by decide)) ?_
  intro _ file hfile
  have hlocate : (written records summary).locate (root.path.child ignoreFileName) =
      .ok (root ++ [ignoreFileName]) := rfl
  rw [hdisk, hlocate]
  have hne : ∀ file ∈ artifactNames, root ++ [ignoreFileName] ≠ outPlace ++ [file] := by decide
  exact fun heq => hne file hfile (Except.ok.inj heq)

end OneStory

/-! A repository whose ignore file is a link to where the summary goes, and there stands a rule that
ignores the one source. -/

namespace LinkedIgnore

open SourceAccess

def root : Place := ["repo"]

def outDir : Place := ["repo", ".storymap"]

def settings : Settings :=
  { Settings.standard with backend := .strict }

def disk : Disk where
  entries :=
    [(["repo"], .directory),
      (["repo", "a.js"], .file (Text.utf8 "storiesOf('Card').add('Basic', fn);\n")),
      (["repo", ".storymap"], .directory),
      (["repo", ".storymap", summaryFile], .file (Text.utf8 "*.js\n")),
      (["repo", ".gitignore"], .link ".storymap/stories_summary.json")]
  distinct := by decide

/-- The first generation overwrites the rule, and the second one finds the source. -/
theorem fileCount_generate_generate :
    outDir ≠ root ∧ (∀ file ∈ artifactNames, disk.Resolved (outDir ++ [file])) ∧
      (disk.generate root (some outDir.path) (some settings)).result.toOption.map
        Generation.fileCount = some 0 ∧
      ((disk.generate root (some outDir.path) (some settings)).disk.generate root
        (some outDir.path) (some settings)).result.toOption.map Generation.fileCount = some 1 :=
  ⟨by decide, Disk.resolved_of_entries (by decide), by decide +kernel⟩

end LinkedIgnore

end StoryCatalog
