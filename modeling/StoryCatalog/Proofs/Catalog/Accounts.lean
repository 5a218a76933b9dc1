import StoryCatalog.Proofs.Catalog.Artifacts
import StoryCatalog.Proofs.Contract.Counts

/-!
# Every source accounts for itself

Every scanned source gives either the records of its stories or the entry of a skipped file
(`Source.Gives`), and the catalog is what the sources give, in their order, with its totals
(`Catalog.Accounts`). What a source gives depends on nothing else. So when the content of one file
changes, a catalog stays as it is but for the path of that file (`generateInto_accounts`).
-/

namespace StoryCatalog

/-- A record tells of a story of the file at a path: it has the path, the names of the story, its
position, and the identifier that these make. -/
structure StoryRecord.Tells (path : Text) (told : Story) (r : StoryRecord) : Prop where
  schemaVersion : r.schemaVersion = StoryCatalog.schemaVersion
  storyId : r.storyId = StoryCatalog.storyId path told.position.line told.position.column told.kind
    told.story
  path : r.path = path
  kind : r.kind = told.kind
  story : r.story = told.story
  line : r.line = told.position.line
  column : r.column = told.position.column

/-- What a source gives to a catalog. A source that is opened and read gives a record for each of
its stories, in the order of their extraction. A source that the system refuses, that is no text or
no program gives no record and the entry of one skipped file. -/
inductive Source.Gives [SourceAccess] (style : ReadingStyle) (source : Source) :
    List StoryRecord → List SkippedFile → Prop where
  | stories {t : Text} {extraction : Extraction} {records : List StoryRecord}
      (opened : SourceAccess.refusal? source.names = none)
      (text : readText source.content = .ok t) (extracted : style.extract t = .ok extraction)
      (told : List.Forall₂ (StoryRecord.Tells source.path) extraction.stories records) :
      Gives style source records []
  | refused {words : Text} (refused : SourceAccess.refusal? source.names = some words) :
      Gives style source [] [⟨source.path, none, none, "unreadable: " ++ words⟩]
  | undecodable {e : Utf8.IllFormed} (opened : SourceAccess.refusal? source.names = none)
      (undecodable : readText source.content = .error e) :
      Gives style source [] [⟨source.path, none, none, "unreadable: " ++ e.message⟩]
  | unparsed {t : Text} {e : ParseError} (opened : SourceAccess.refusal? source.names = none)
      (text : readText source.content = .ok t) (unparsed : style.extract t = .error (.parse e)) :
      Gives style source [] [⟨source.path, some e.line, some e.column, e.message⟩]

/-- A catalog accounts for sources: each of them gives its part, the parts are kept in order, and
the totals are those of the parts. -/
structure Catalog.Accounts [SourceAccess] (catalog : Catalog) (style : ReadingStyle)
    (sources : List Source) : Prop where
  parts : ∃ parts : List (List StoryRecord × List SkippedFile),
    List.Forall₂ (fun source part => source.Gives style part.1 part.2) sources parts ∧
    catalog.records = parts.flatMap Prod.fst ∧
    catalog.summary.skipped = parts.flatMap Prod.snd
  fileCount : catalog.summary.fileCount = sources.length
  storyCount : catalog.summary.storyCount = catalog.records.length
  total : (catalog.summary.kinds.map Prod.snd).sum = catalog.records.length
  kinds : ∀ kind count, (kind, count) ∈ catalog.summary.kinds ↔
    kind ∈ catalog.records.map StoryRecord.kind ∧
      count = (catalog.records.map StoryRecord.kind).count kind
  ascending : (catalog.summary.kinds.map Prod.fst).Pairwise Text.Before

/-- Two catalogs have the same records and the same skipped files, in the same order, but for those
of one path. -/
structure Catalog.AgreesOff (catalog other : Catalog) (path : Text) : Prop where
  records : catalog.records.filter (fun r => r.path ≠ path) =
    other.records.filter (fun r => r.path ≠ path)
  skipped : catalog.summary.skipped.filter (fun f => f.path ≠ path) =
    other.summary.skipped.filter (fun f => f.path ≠ path)

/-! ## One source -/

/-- The record made of a story tells this story, in every field. -/
theorem StoryRecord.tells_ofStory (path : Text) (told : Story) :
    (ofStory path told).Tells path told where
  schemaVersion := rfl
  storyId := rfl
  path := rfl
  kind := rfl
  story := rfl
  line := rfl
  column := rfl

/-- A story of a file is told by one record only. -/
theorem StoryRecord.Tells.eq_ofStory {path : Text} {told : Story} {r : StoryRecord}
    (h : r.Tells path told) : r = .ofStory path told := by
  cases r
  simp only [ofStory, mk.injEq]
  exact ⟨h.schemaVersion, h.storyId, h.path, h.kind, h.story, h.line, h.column⟩

section

variable [SourceAccess] {style : ReadingStyle} {source : Source}

/-- What a source contributes is what it gives. -/
theorem Source.gives_of_contribution {part : Contribution}
    (h : (source.contribution style).2 = .ok part) :
    source.Gives style part.records part.skipped?.toList := by
  unfold Source.contribution at h
  dsimp only at h
  split at h
  · rename_i words hread
    cases h
    rcases Source.read_eq_error_iff.mp hread with hrefused | ⟨hopened, e, htext, rfl⟩
    · exact .refused hrefused
    · exact .undecodable hopened htext
  · rename_i t hread
    obtain ⟨hopened, htext⟩ := Source.read_eq_ok_iff.mp hread
    split at h
    · rename_i e hunparsed
      cases h
      exact .unparsed hopened htext hunparsed
    · cases h
    · rename_i extraction hextracted
      cases h
      refine .stories hopened htext hextracted ?_
      simp only [Contribution.records]
      rw [List.forall₂_map_right_iff, List.forall₂_same]
      exact fun told _ => StoryRecord.tells_ofStory source.path told

/-- Every record that a source gives is the record of a story of its path. -/
theorem Source.Gives.exists_eq_ofStory {records : List StoryRecord} {skipped : List SkippedFile}
    (h : source.Gives style records skipped) {r : StoryRecord} (hr : r ∈ records) :
    ∃ told, r = .ofStory source.path told := by
  cases h with
  | stories _ _ _ htold =>
      obtain ⟨told, _, htells⟩ := exists_of_forall₂_of_mem htold.flip hr
      exact ⟨told, htells.eq_ofStory⟩
  | refused => cases hr
  | undecodable => cases hr
  | unparsed => cases hr

/-- The records a source gives are about this source. -/
theorem Source.Gives.path_of_mem_records {records : List StoryRecord} {skipped : List SkippedFile}
    (h : source.Gives style records skipped) : ∀ r ∈ records, r.path = source.path := by
  intro r hr
  obtain ⟨told, rfl⟩ := h.exists_eq_ofStory hr
  rfl

/-- The skipped file a source gives is this source. -/
theorem Source.Gives.path_of_mem_skipped {records : List StoryRecord} {skipped : List SkippedFile}
    (h : source.Gives style records skipped) : ∀ f ∈ skipped, f.path = source.path := by
  cases h with
  | stories => simp
  | refused => simp
  | undecodable => simp
  | unparsed => simp

/-- The words of a refusal, the text or the fault of its bytes, and the stories or the fault of the
text leave a source one thing to give. -/
theorem Source.Gives.unique {records others : List StoryRecord} {skipped left : List SkippedFile}
    (h : source.Gives style records skipped) (h' : source.Gives style others left) :
    records = others ∧ skipped = left := by
  cases h with
  | stories hopened htext hextracted htold =>
      cases h' with
      | stories _ htext' hextracted' htold' =>
          cases htext.symm.trans htext'
          cases hextracted.symm.trans hextracted'
          have hrecords := eq_map_of_forall₂ (htold.imp fun _ _ htells => htells.eq_ofStory.symm)
          have hothers := eq_map_of_forall₂ (htold'.imp fun _ _ htells => htells.eq_ofStory.symm)
          exact ⟨hrecords.trans hothers.symm, rfl⟩
      | refused hrefused' => cases hopened.symm.trans hrefused'
      | undecodable _ htext' => cases htext.symm.trans htext'
      | unparsed _ htext' hunparsed' =>
          cases htext.symm.trans htext'
          cases hextracted.symm.trans hunparsed'
  | refused hrefused =>
      cases h' with
      | stories hopened' => cases hrefused.symm.trans hopened'
      | refused hrefused' =>
          cases hrefused.symm.trans hrefused'
          exact ⟨rfl, rfl⟩
      | undecodable hopened' => cases hrefused.symm.trans hopened'
      | unparsed hopened' => cases hrefused.symm.trans hopened'
  | undecodable hopened htext =>
      cases h' with
      | stories _ htext' => cases htext.symm.trans htext'
      | refused hrefused' => cases hopened.symm.trans hrefused'
      | undecodable _ htext' =>
          cases htext.symm.trans htext'
          exact ⟨rfl, rfl⟩
      | unparsed _ htext' => cases htext.symm.trans htext'
  | unparsed hopened htext hunparsed =>
      cases h' with
      | stories _ htext' hextracted' =>
          cases htext.symm.trans htext'
          cases hunparsed.symm.trans hextracted'
      | refused hrefused' => cases hopened.symm.trans hrefused'
      | undecodable _ htext' => cases htext.symm.trans htext'
      | unparsed _ htext' hunparsed' =>
          cases htext.symm.trans htext'
          cases hunparsed.symm.trans hunparsed'
          exact ⟨rfl, rfl⟩

/-! ## All sources -/

/-- A catalog accounts for the sources that its contributions come from. -/
theorem Catalog.accounts_ofContributions {sources : List Source} {log : Log}
    {parts : List Contribution} (h : contributions style sources = (log, .ok parts)) :
    (ofContributions parts).Accounts style sources where
  parts := by
    refine ⟨parts.map fun part => (part.records, part.skipped?.toList), ?_, ?_, ?_⟩
    · rw [List.forall₂_map_right_iff]
      exact (forall₂_of_contributions_eq_ok h).imp
        fun _ _ hpart => Source.gives_of_contribution hpart
    · rw [List.flatMap_map]
      rfl
    · rw [List.flatMap_map]
      exact List.filterMap_eq_flatMap_toList _ _
  fileCount := congrArg _ (forall₂_of_contributions_eq_ok h).length_eq.symm
  storyCount := rfl
  total := by
    rw [← List.length_map StoryRecord.kind]
    exact sum_kindCounts _
  kinds := fun _ _ => mem_kindCounts
  ascending := ascending_kindCounts _

/-- Without the entries of one path, what sources give is what the sources of other paths give. -/
theorem exists_gives_filter {sources : List Source}
    {parts : List (List StoryRecord × List SkippedFile)}
    (h : List.Forall₂ (fun source part => source.Gives style part.1 part.2) sources parts)
    (path : Text) :
    ∃ kept : List (List StoryRecord × List SkippedFile),
      List.Forall₂ (fun source part => source.Gives style part.1 part.2)
        (sources.filter fun source => source.path ≠ path) kept ∧
      (parts.flatMap Prod.fst).filter (fun r => r.path ≠ path) = kept.flatMap Prod.fst ∧
      (parts.flatMap Prod.snd).filter (fun f => f.path ≠ path) = kept.flatMap Prod.snd := by
  -- all that a source gives has its path, so it stays or goes with the source
  induction h with
  | nil => exact ⟨[], .nil, rfl, rfl⟩
  | @cons source part rest others hgives _ ih =>
      obtain ⟨kept, hkept, hrecords, hskipped⟩ := ih
      have hpaths := hgives.path_of_mem_records
      have hpaths' := hgives.path_of_mem_skipped
      simp only [List.flatMap_cons, List.filter_append, hrecords, hskipped]
      by_cases hpath : source.path = path
      · refine ⟨kept, ?_, ?_, ?_⟩
        · rwa [List.filter_cons_of_neg (by simpa using hpath)]
        · rw [List.filter_eq_nil_iff.mpr fun r hr => by simp [hpaths r hr, hpath], List.nil_append]
        · rw [List.filter_eq_nil_iff.mpr fun f hf => by simp [hpaths' f hf, hpath], List.nil_append]
      · refine ⟨part :: kept, ?_, ?_, ?_⟩
        · rw [List.filter_cons_of_pos (by simpa using hpath)]
          exact .cons hgives hkept
        · rw [List.filter_eq_self.mpr fun r hr => by simp [hpaths r hr, hpath], List.flatMap_cons]
        · rw [List.filter_eq_self.mpr fun f hf => by simp [hpaths' f hf, hpath], List.flatMap_cons]

/-- Catalogs that account for the same sources, but for those of one path, agree off this path. -/
theorem Catalog.Accounts.agreesOff {sources others : List Source} {catalog other : Catalog}
    (h : catalog.Accounts style sources) (h' : other.Accounts style others) {path : Text}
    (hsources : sources.filter (fun source => source.path ≠ path) =
      others.filter (fun source => source.path ≠ path)) : catalog.AgreesOff other path := by
  obtain ⟨parts, hparts, hrecords, hskipped⟩ := h.parts
  obtain ⟨parts', hparts', hrecords', hskipped'⟩ := h'.parts
  obtain ⟨kept, hkept, hfiltered, hleft⟩ := exists_gives_filter hparts path
  obtain ⟨kept', hkept', hfiltered', hleft'⟩ := exists_gives_filter hparts' path
  have heq : kept = kept' := by
    rw [hsources] at hkept
    have hunique : Relator.RightUnique fun (source : Source)
        (part : List StoryRecord × List SkippedFile) => source.Gives style part.1 part.2 :=
      fun _ _ _ hgives hgives' => Prod.ext_iff.mpr (hgives.unique hgives')
    exact List.right_unique_forall₂' hunique hkept hkept'
  refine ⟨?_, ?_⟩
  · rw [hrecords, hrecords', hfiltered, hfiltered', heq]
  · rw [hskipped, hskipped', hleft, hleft', heq]

end

namespace Disk

variable {disk : Disk} {root : Place}

/-- The catalog of a disk accounts for its sources. -/
theorem accounts_catalog [SourceAccess] {outDir : Path} {settings : Settings} {catalog : Catalog}
    (h : (disk.catalog root outDir settings).result = .ok catalog) :
    ∃ sources, disk.sources root (settings.selection root outDir) = .ok sources ∧
      catalog.Accounts settings.readingStyle sources := by
  unfold Disk.catalog at h
  split at h
  · cases h
  · rename_i sources hsources
    split at h
    · cases h
    · rename_i parts hparts
      cases h
      exact ⟨sources, hsources, Catalog.accounts_ofContributions hparts⟩

/-- Whatever the repository, its settings and the output directory: the catalog of a generation that
returns accounts for the scanned sources, whose paths are strictly ascending. When the same
generation returns on a disk that differs in the content of one file only, which is no ignore file,
both catalogs agree off the path of this file. -/
theorem generateInto_accounts [SourceAccess] (disk : Disk) (hnamed : disk.WellNamed) (root : Place)
    (outDir : Path) (settings : Settings) {g : Generation}
    (h : (disk.generateInto root outDir settings).result = .ok g) :
    (∃ sources,
      (disk.prepare outDir).disk.sources root (settings.selection root outDir) = .ok sources ∧
      (sources.map Source.path).Pairwise Text.Before ∧
      g.catalog.Accounts settings.readingStyle sources) ∧
    ∀ (other : Disk) (names : List Name) (g' : Generation),
      disk.DiffersAt other (root ++ names) →
      (disk.prepare outDir).disk.NoIgnoreFile root names →
      (other.generateInto root outDir settings).result = .ok g' →
      g.catalog.AgreesOff g'.catalog (joinNames names) := by
  obtain ⟨prepared, _, _, _, _, hprepared, hcatalog, _⟩ := generateInto_cases h
  obtain ⟨sources, hsources, haccounts⟩ := accounts_catalog hcatalog
  have hnamed := hnamed.makeDirectories hprepared
  have hdisk : (disk.prepare outDir).disk = prepared := by
    rw [prepare, hprepared]
    rfl
  rw [hdisk]
  refine ⟨⟨sources, hsources, hnamed.ascending_sources hsources, haccounts⟩, ?_⟩
  intro other names g' hdiffers hfree h'
  obtain ⟨prepared', _, _, _, _, hprepared', hcatalog', _⟩ := generateInto_cases h'
  obtain ⟨sources', hsources', haccounts'⟩ := accounts_catalog hcatalog'
  -- the directories that are made are the same, so the prepared disks differ in the same file
  have hdiffers : prepared.DiffersAt prepared' (root ++ names) := by
    have houtcome := hdiffers.makeDirectories outDir
    rw [hprepared, hprepared'] at houtcome
    cases houtcome with
    | ok hdiffers => exact hdiffers
  exact haccounts.agreesOff haccounts' (hdiffers.filter_sources_eq hfree hnamed hsources hsources')

end Disk

/-! The same repository with one story, and the file that is no text now has a story as well. -/

namespace OneStory

open SourceAccess

def mended : Disk where
  entries :=
    [(["repo"], .directory), (["repo", "a.js"], .file (Text.utf8 source)),
      (["repo", "b.js"], .file (Text.utf8 source)), (["repo", ".storymap"], .directory)]
  distinct := by decide

def mendedSources : List Source :=
  [⟨["a.js"], Text.utf8 source⟩, ⟨["b.js"], Text.utf8 source⟩]

def mendedParts : List Contribution :=
  [.stories [.ofStory "a.js" ⟨"K", "\n", ⟨1, 16⟩⟩],
    .stories [.ofStory "b.js" ⟨"K", "\n", ⟨1, 16⟩⟩]]

theorem sources_mended :
    mended.sources root (settings.selection root outDir) = .ok mendedSources :=
  Disk.sources_eq_ok rfl (by decide +kernel) (by decide +kernel)

theorem contributions_mended :
    (contributions settings.readingStyle mendedSources).2 = .ok mendedParts := by
  decide +kernel

def mendedCatalog : Catalog :=
  .ofContributions mendedParts

theorem catalog_mended : (mended.catalog root outDir settings).result = .ok mendedCatalog :=
  Disk.catalog_of_contributions sources_mended contributions_mended

theorem generateInto_mended :
    (mended.generateInto root outDir settings).result = .ok ⟨mendedCatalog, outDir⟩ := by
  obtain ⟨t, u, ht, hu⟩ : ∃ t u, mendedCatalog.recordsText = (t, none) ∧
      mendedCatalog.summaryText = .ok u :=
    Catalog.exists_texts (by decide +kernel) (by decide +kernel)
  exact (Disk.generateInto_eq_ok rfl catalog_mended ht rfl hu rfl).1

/-- The names that lead to the mended file. -/
def mendedNames : List Name :=
  ["b.js"]

theorem wellNamed : disk.WellNamed := by
  intro place content hget
  have hall : ∀ entry ∈ disk.entries, ∀ name ∈ entry.1, (0x2F : CodePoint) ∉ name := by decide
  have hplace : place ≠ [] := by
    rintro rfl
    cases hget
  exact hall _ ((Disk.get?_eq_some_iff hplace).mp hget)

theorem differsAt_mended : disk.DiffersAt mended (root ++ mendedNames) where
  agree := by
    intro place hplace
    have hne : (place == (["repo", "b.js"] : Place)) = false := beq_false_of_ne hplace
    simp only [Disk.get?, disk, mended, List.lookup_cons, hne]
  file := ⟨_, rfl⟩
  otherFile := ⟨_, rfl⟩

/-- The story of the one file is not touched when the other file is mended. -/
theorem agreesOff_mended :
    disk.WellNamed ∧ disk.DiffersAt mended (root ++ mendedNames) ∧
      (disk.generateInto root outDir settings).result = .ok ⟨catalog, outDir⟩ ∧
      (mended.generateInto root outDir settings).result = .ok ⟨mendedCatalog, outDir⟩ ∧
      catalog.Accounts settings.readingStyle sources ∧
      catalog.AgreesOff mendedCatalog "b.js" ∧
      mendedCatalog.records.map StoryRecord.path = ["a.js", "b.js"] ∧
      catalog.records.map StoryRecord.path = ["a.js"] := by
  obtain ⟨_, _, hresult, _⟩ := generateInto_eq
  obtain ⟨⟨found, hfound, _, haccounts⟩, hoff⟩ :=
    Disk.generateInto_accounts disk wellNamed root outDir settings hresult
  have hsources : found = sources := Except.ok.inj (hfound.symm.trans sources_eq)
  refine ⟨wellNamed, differsAt_mended, hresult, generateInto_mended, hsources ▸ haccounts, ?_, rfl,
    rfl⟩
  refine hoff mended mendedNames _ differsAt_mended ⟨by decide, ?_⟩ generateInto_mended
  have hlocate : (disk.prepare outDir).disk.locate (root.path.child ignoreFileName) =
      .ok (root ++ [ignoreFileName]) := rfl
  rw [hlocate]
  decide

end OneStory

end StoryCatalog
