import StoryCatalog.Catalog.Verify
import StoryCatalog.Proofs.Catalog.Generation
import StoryCatalog.Proofs.Catalog.Records
import StoryCatalog.Proofs.Scan.Sources

/-!
# Generated artifacts validate

Validation right after a generation that returns has no finding, strict or not, exactly when the two
files were written to two places (`validate_generate_eq_empty_iff`). They are written to one place
when a link under the name of one of them leads to the other.
-/

namespace StoryCatalog

namespace Disk

variable {disk : Disk} {root : Place}

/-- Of every file below the root it is relied on that a reader reports spans that end in the name of
the story method. -/
def EndsInMethod (disk : Disk) (root : Place) (style : ReadingStyle) : Prop :=
  ∀ names content, (names, Node.file content) ∈ disk.below root →
    (Source.mk names content).EndsInMethod style

/-- A catalog has sound records and their totals. -/
theorem catalog_eq_ok [SourceAccess] {outDir : Path} {settings : Settings} {catalog : Catalog}
    (h : (disk.catalog root outDir settings).result = .ok catalog)
    (hend : disk.EndsInMethod root settings.readingStyle) :
    ∃ parts, catalog = .ofContributions parts ∧ ∀ r ∈ catalog.records, r.Sound := by
  unfold Disk.catalog at h
  split at h
  · cases h
  · rename_i sources hsources
    split at h
    · cases h
    · rename_i parts hparts
      cases h
      refine ⟨parts, rfl, ?_⟩
      intro r hr
      obtain ⟨part, hpart, hr⟩ := List.mem_flatMap.mp hr
      refine sound_contributions ?_ hparts part hpart r hr
      intro source hsource
      exact hend _ _ (mem_below_of_mem_sources hsources hsource)

/-- Making directories leaves the sources of a repository as they were. -/
theorem EndsInMethod.of_makeDirectories {style : ReadingStyle} (h : disk.EndsInMethod root style)
    {path : Path} {made : Disk} (hmade : disk.makeDirectories path = .ok made) :
    made.EndsInMethod root style := by
  intro names content hmem
  exact h names content (mem_below_makeDirectories hmade hmem)

/-! ## The two files -/

/-- The validation of a directory that has both files is that of their content. -/
theorem validate_eq (strict : Bool) {path : Path} {records summary : Bytes}
    (hdirectory : disk.node? path = some .directory)
    (hrecords : disk.content? (path.child storiesFile) = some records)
    (hsummary : disk.content? (path.child summaryFile) = some summary) :
    disk.validate strict path =
      Validation.validateContents strict (path.child storiesFile).toText
        (path.child summaryFile).toText records summary := by
  rw [validate, artifactsAt, hdirectory, hrecords, hsummary]
  rfl

/-- Whatever the repository, its settings and the directory asked for: when a generation returns,
the artifacts validate without an error and without a warning, strictly or not, exactly when the
paths of the two files lead to two places. -/
theorem validate_generate_eq_empty_iff [SourceAccess] (disk : Disk) (root : Place)
    (outDir : Option Path) (settings : Option Settings) {g : Generation}
    (h : (disk.generate root outDir settings).result = .ok g)
    (hreader : ∀ loaded, disk.settingsOr root settings = .ok loaded →
      disk.EndsInMethod root loaded.readingStyle) (strict : Bool) :
    (disk.generate root outDir settings).disk.validate strict g.outDir = Report.empty ↔
      (disk.generate root outDir settings).disk.locate (g.outDir.child storiesFile) ≠
        (disk.generate root outDir settings).disk.locate (g.outDir.child summaryFile) := by
  obtain ⟨loaded, prepared, recorded, t, u, hloaded, hprepared, hcatalog, ht, hrecords, hu,
    hsummary⟩ := generate_cases h
  generalize (disk.generate root outDir settings).disk = final at hsummary ⊢
  obtain ⟨parts, hparts, hsound⟩ :=
    catalog_eq_ok hcatalog ((hreader loaded hloaded).of_makeDirectories hprepared)
  obtain ⟨place, hplace, -⟩ := write_cases hrecords
  obtain ⟨spot, hspot, -⟩ := write_cases hsummary
  -- Neither write turns a path aside, so both places can be found on the last disk.
  have hrecordsPlace : recorded.locate (g.outDir.child storiesFile) = .ok place :=
    locate_write hrecords hplace
  have hplaceFinal := locate_write hsummary hrecordsPlace
  have hspotFinal := locate_write hsummary hspot
  have hdirectory := node?_of_locate_child hplaceFinal
  have hsummaryContent := content?_write_self hsummary
  rw [hplaceFinal, hspotFinal, ne_eq, Except.ok.injEq]
  by_cases heq : place = spot
  · -- one place: the records are gone, and a line of the summary is no record
    have hrecordsContent : final.content? (g.outDir.child storiesFile) = some u.utf8 := by
      rw [content?_eq_some_iff hplaceFinal, heq, ← content?_eq_some_iff hspotFinal]
      exact hsummaryContent
    rw [validate_eq strict hdirectory hrecordsContent hsummaryContent]
    refine iff_of_false ?_ (not_not_intro heq)
    intro hempty
    exact Validation.errors_validateContents_ne_nil strict _ _ g.catalog.summary hu u.utf8
      (congrArg Report.errors hempty)
  · have hrecordsContent : final.content? (g.outDir.child storiesFile) = some t.utf8 :=
      content?_write_of_ne hsummary hspot hrecordsPlace heq (content?_write_self hrecords)
    rw [validate_eq strict hdirectory hrecordsContent hsummaryContent]
    refine iff_of_true ?_ heq
    rw [hparts] at hsound ht hu
    exact Validation.validateContents_eq_empty strict _ _ hsound rfl rfl rfl ht hu

end Disk

/-! A repository with one story, whose name is a line feed, and a file that is no text. -/

namespace OneStory

open SourceAccess

def root : Place := ["repo"]

def outDir : Path := ⟨.top, ["repo", ".storymap"]⟩

def source : String := "storiesOf('K').add('\\n')"

def disk : Disk where
  entries :=
    [(["repo"], .directory), (["repo", "a.js"], .file (Text.utf8 source)),
      (["repo", "b.js"], .file [0xFF]), (["repo", ".storymap"], .directory)]
  distinct := by decide

def settings : Settings :=
  { Settings.standard with backend := .strict }

def sources : List Source :=
  [⟨["a.js"], Text.utf8 source⟩, ⟨["b.js"], [0xFF]⟩]

def parts : List Contribution :=
  [.stories [.ofStory "a.js" ⟨"K", "\n", ⟨1, 16⟩⟩],
    .skipped ⟨"b.js", none, none,
      "unreadable: 'utf-8' codec can't decode byte 0xff in position 0: invalid start byte"⟩]

theorem sources_eq : disk.sources root (settings.selection root outDir) = .ok sources :=
  Disk.sources_eq_ok rfl (by decide +kernel) (by decide +kernel)

theorem contributions_eq : (contributions settings.readingStyle sources).2 = .ok parts := by
  decide +kernel

theorem catalog_eq : (disk.catalog root outDir settings).result = .ok (.ofContributions parts) :=
  Disk.catalog_of_contributions sources_eq contributions_eq

/-- The reader ends the span of the story right behind `add`. -/
theorem endsInMethod_source : settings.readingStyle.EndsInMethod source := by
  have h : (match Script.Strict.readModule source with
      | .ok tree => decide (∀ found ∈ (Estree.view.walk settings.pattern tree).found,
          ∀ declared ∈ found.stories, 0 ≤ declared.span.stop ∧
            declared.span.stop ≤ (source : Text).length ∧
            settings.pattern.method <:+
              Text.lastLine ((source : Text).take declared.span.stop.toNat))
      | .error _ => true) = true := by
    decide +kernel
  intro tree htree found hfound declared hdeclared
  rw [htree] at h
  obtain ⟨hlow, hhigh, hmethod⟩ := of_decide_eq_true h found hfound declared hdeclared
  exact ⟨declared.span.stop.toNat, by omega, (Int.toNat_of_nonneg hlow).symm, hmethod⟩

theorem endsInMethod : disk.EndsInMethod root settings.readingStyle := by
  intro names content hmem t ht
  have hbelow : disk.below root =
      ([(["a.js"], .file (Text.utf8 source)), (["b.js"], .file [0xFF]),
        ([".storymap"], .directory)] : List (List Name × Node)) := rfl
  rw [hbelow] at hmem
  simp only [List.mem_cons, List.not_mem_nil, or_false, Prod.mk.injEq, Node.file.injEq,
    reduceCtorEq, and_false] at hmem
  rcases hmem with ⟨_, rfl⟩ | ⟨_, rfl⟩
  · have hread : readText (Text.utf8 source) = .ok source := by
      rw [readText, Utf8.decode_utf8 (Text.isScalar_ofString source)]
      rfl
    rw [hread] at ht
    cases ht
    exact endsInMethod_source
  · have hread : (readText [0xFF] matches .ok _) = false := by decide +kernel
    rw [ht] at hread
    cases hread

def catalog : Catalog :=
  .ofContributions parts

/-- The disk with both files on it. -/
def written (records summary : Bytes) : Disk :=
  (disk.put (outDir.child storiesFile).names (.file records)).put (outDir.child summaryFile).names
    (.file summary)

/-- Both files of the catalog can be written. -/
theorem exists_texts : ∃ t u, catalog.recordsText = (t, none) ∧ catalog.summaryText = .ok u :=
  Catalog.exists_texts (by decide +kernel) (by decide +kernel)

theorem generateInto_eq : ∃ records summary,
    (disk.generateInto root outDir settings).result = .ok ⟨catalog, outDir⟩ ∧
      (disk.generateInto root outDir settings).disk = written records summary := by
  obtain ⟨t, u, ht, hu⟩ := exists_texts
  exact ⟨_, _, Disk.generateInto_eq_ok rfl catalog_eq ht rfl hu rfl⟩

theorem generate_eq : ∃ records summary,
    (disk.generate root none (some settings)).result = .ok ⟨catalog, outDir⟩ ∧
      (disk.generate root none (some settings)).disk = written records summary := by
  have hloaded : disk.settingsOr root (some settings) = .ok settings := rfl
  have hpath : disk.outputDir root settings none = .ok outDir := rfl
  rw [Disk.generate_eq_generateInto hloaded hpath]
  exact generateInto_eq

/-- The story is in the artifacts, the other file is among the skipped ones, and there is nothing to
find fault with. -/
theorem validate_generate :
    (disk.generate root none (some settings)).result = .ok ⟨catalog, outDir⟩ ∧
      catalog.records.map StoryRecord.story = ["\n"] ∧
      catalog.summary.skipped.map SkippedFile.path = ["b.js"] ∧
      ∀ strict, (disk.generate root none (some settings)).disk.validate strict outDir =
        Report.empty := by
  obtain ⟨records, summary, hresult, hdisk⟩ := generate_eq
  refine ⟨hresult, rfl, rfl, fun strict => ?_⟩
  have hreader : ∀ loaded, disk.settingsOr root (some settings) = .ok loaded →
      disk.EndsInMethod root loaded.readingStyle := by
    rintro loaded ⟨⟩
    exact endsInMethod
  rw [Disk.validate_generate_eq_empty_iff disk root none (some settings) hresult hreader strict,
    hdisk]
  have hrecords : (written records summary).locate (outDir.child storiesFile) =
      .ok (outDir.child storiesFile).names := rfl
  have hsummary : (written records summary).locate (outDir.child summaryFile) =
      .ok (outDir.child summaryFile).names := rfl
  rw [hrecords, hsummary]
  decide

end OneStory

/-! A repository without sources, in whose output directory the summary is a link to the records. -/

namespace LinkedSummary

open SourceAccess

def root : Place := ["repo"]

def outDir : Path := ⟨.top, ["repo", ".storymap"]⟩

def disk : Disk where
  entries :=
    [(["repo"], .directory), (["repo", ".storymap"], .directory),
      (["repo", ".storymap", summaryFile], .link storiesFile)]
  distinct := by decide

/-- The generation returns, but the summary has been written over the records. -/
theorem errors_validate_generate :
    (disk.generate root none none).result = .ok ⟨.ofContributions [], outDir⟩ ∧
      (∀ names content, (names, Node.file content) ∉ disk.below root) ∧
      ((disk.generate root none none).disk.validate false outDir).ok = false := by
  refine ⟨?_, ?_, by decide +kernel⟩
  · have h : (match (disk.generate root none none).result with
        | .ok g => decide (g.catalog = .ofContributions [] ∧ g.outDir = outDir)
        | .error _ => false) = true := by
      decide +kernel
    split at h
    · rename_i g hg
      obtain ⟨hcatalog, hdir⟩ := of_decide_eq_true h
      rw [hg, ← hcatalog, ← hdir]
    · cases h
  · intro names content hmem
    have hbelow : disk.below root =
        ([([".storymap"], .directory), ([".storymap", summaryFile], .link storiesFile)] :
          List (List Name × Node)) := rfl
    rw [hbelow] at hmem
    simp at hmem

end LinkedSummary

end StoryCatalog
