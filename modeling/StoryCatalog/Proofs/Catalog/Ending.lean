import StoryCatalog.Proofs.Catalog.Accounts
import StoryCatalog.Proofs.Chain.Agreement
import StoryCatalog.Proofs.Contract.Carried
import StoryCatalog.Proofs.Disk.Overwrite

/-!
# How a generation ends

A reader that answers, with a tree or with a refusal, lets no source end a run: each source gives
its stories or the entry of a skipped file (`exists_contributions_eq_ok`). So when the output
directory can be written to and the ignore files can be read, a generation has a catalog, and what
remains is to write it. Both artifacts are written exactly when the catalog can be carried; when it
cannot be, the run ends after the records, and the summary stays as it was (`generate_ends`).
-/

namespace StoryCatalog

/-! ## Readers that answer -/

/-- Every node of an attribute tree that is asked for its span has one that ends inside the text. -/
def Estree.SpansInside (pattern : Pattern) (source : Text) (root : Estree) : Prop :=
  ∀ node ∈ (Estree.view.walk pattern root).consulted,
    node.lacksRange = false ∧ 0 ≤ (Estree.view.span node).stop ∧
      (Estree.view.span node).stop ≤ source.length

instance (pattern : Pattern) (source : Text) (root : Estree) :
    Decidable (root.SpansInside pattern source) :=
  inferInstanceAs (Decidable (∀ node ∈ _, _ ∧ _ ∧ _))

/-- Of a reader it is relied on that it answers: it gives a tree, with spans inside the text, or
else it refuses the text. A concrete tree is always given, and its spans are not relied on. -/
def ReadingStyle.Answers (style : ReadingStyle) (source : String) : Prop :=
  match style.backend with
  | .concrete => True
  | .strict =>
      match Script.Strict.readModule source with
      | .ok root => root.SpansInside style.pattern source
      | .error (.refused _) => True
      | .error (.reference _) => False

instance (style : ReadingStyle) (source : String) : Decidable (style.Answers source) :=
  match style with
  | ⟨.concrete, _⟩ => .isTrue trivial
  | ⟨.strict, pattern⟩ =>
      match h : Script.Strict.readModule source with
      | .ok root =>
          decidable_of_iff (root.SpansInside pattern source)
            (by simp only [ReadingStyle.Answers, h])
      | .error (.refused _) => .isTrue (by simp only [ReadingStyle.Answers, h])
      | .error (.reference _) => .isFalse (by simp only [ReadingStyle.Answers, h, not_false_iff])

/-- A concrete tree has stories, unless it is refused. -/
theorem Cst.stories_cases (pattern : Pattern) (source : Text) (root : Cst) :
    (∃ stories, root.stories pattern source = .ok stories) ∨
      ∃ e, root.stories pattern source = .error (.parse e) := by
  unfold Cst.stories
  dsimp only
  split
  · rename_i e _
    exact .inr ⟨e, rfl⟩
  · obtain ⟨stories, hstories⟩ := Cst.exists_storiesByPoint_eq_ok pattern source.utf8 root
    rw [hstories]
    exact .inl ⟨stories, rfl⟩

/-- An attribute tree whose spans are inside the text has stories. -/
theorem Estree.SpansInside.exists_stories_eq_ok {pattern : Pattern} {source : Text} {root : Estree}
    (h : root.SpansInside pattern source) :
    ∃ stories, root.stories pattern source = .ok stories := by
  have hranges : (Estree.view.walk pattern root).consulted.any lacksRange = false := by
    rw [List.any_eq_false]
    intro node hnode
    simp [(h node hnode).1]
  obtain ⟨stories, hstories⟩ : ∃ stories,
      Estree.view.storiesByOffset pattern source root = .ok stories := by
    refine exists_flatten_eq_ok pattern fun found hfound declared hdeclared => ?_
    obtain ⟨node, hnode, hspan⟩ := View.exists_consulted_of_story hfound hdeclared
    obtain ⟨_, hlow, hhigh⟩ := h node hnode
    rw [hspan, ← Int.toNat_of_nonneg hlow]
    exact ⟨_, LineIndex.resolve_ofText source (by omega)⟩
  rw [Estree.stories, hranges, hstories]
  exact ⟨stories, rfl⟩

/-- A reader that answers gives stories or refuses the text. -/
theorem extract_cases {style : ReadingStyle} {source : String} (h : style.Answers source) :
    (∃ extraction, extract style.backend style.pattern source = .ok extraction) ∨
      ∃ e, extract style.backend style.pattern source = .error (.parse e) := by
  obtain ⟨backend, pattern⟩ := style
  cases backend with
  | concrete =>
      simp only [extract, Cst.extraction]
      rcases Cst.stories_cases pattern source (Script.Concrete.read source) with
        ⟨stories, hstories⟩ | ⟨e, he⟩
      · rw [hstories]
        exact .inl ⟨_, rfl⟩
      · rw [he]
        exact .inr ⟨e, rfl⟩
  | strict =>
      simp only [ReadingStyle.Answers, extract] at h ⊢
      cases hread : Script.Strict.readModule source with
      | error e =>
          rw [hread] at h
          cases e with
          | refused e => exact .inr ⟨e, rfl⟩
          | reference fault => exact h.elim
      | ok root =>
          rw [hread] at h
          obtain ⟨stories, hstories⟩ := Estree.SpansInside.exists_stories_eq_ok h
          simp only [Estree.extraction, hstories]
          exact .inl ⟨_, rfl⟩

/-- Whatever text a source is read as, the reader answers. -/
def Source.Answered (style : ReadingStyle) (source : Source) : Prop :=
  ∀ t, readText source.content = .ok t → style.Answers t.toStringLossy

instance (style : ReadingStyle) (source : Source) : Decidable (source.Answered style) :=
  match h : readText source.content with
  | .ok t => decidable_of_iff (style.Answers t.toStringLossy) (by simp [Source.Answered, h])
  | .error _ => .isTrue (by simp [Source.Answered, h])

section

variable [SourceAccess] {style : ReadingStyle}

/-- Whether the system refuses a source or not, and whatever bytes it holds, it contributes when the
reader answers. -/
theorem Source.exists_contribution_eq_ok {source : Source} (h : source.Answered style) :
    ∃ part, (source.contribution style).2 = .ok part := by
  unfold Source.contribution
  dsimp only
  cases hread : source.read with
  | error words => exact ⟨_, rfl⟩
  | ok t =>
      obtain ⟨_, htext⟩ := Source.read_eq_ok_iff.mp hread
      rcases extract_cases (h t htext) with ⟨extraction, hextraction⟩ | ⟨e, he⟩
      · have hextract : style.extract t = .ok extraction := hextraction
        simp only [hextract]
        exact ⟨_, rfl⟩
      · have hextract : style.extract t = .error (.parse e) := he
        simp only [hextract]
        exact ⟨_, rfl⟩

/-- No source ends a run. -/
theorem exists_contributions_eq_ok {sources : List Source}
    (h : ∀ source ∈ sources, source.Answered style) :
    ∃ log parts, contributions style sources = (log, .ok parts) := by
  induction sources with
  | nil => exact ⟨[], [], rfl⟩
  | cons source rest ih =>
      obtain ⟨part, hpart⟩ := Source.exists_contribution_eq_ok (h source List.mem_cons_self)
      obtain ⟨log, parts, hparts⟩ := ih fun other hother => h other (List.mem_cons_of_mem _ hother)
      have hfirst : source.contribution style = ((source.contribution style).1, .ok part) :=
        Prod.ext rfl hpart
      refine ⟨(source.contribution style).1 ++ log, part :: parts, ?_⟩
      rw [contributions, hfirst, hparts]
      rfl

/-- The records of a contribution are those of stories. -/
theorem Catalog.ofStories {sources : List Source} {log : Log} {parts : List Contribution}
    (h : contributions style sources = (log, .ok parts)) : OfStories parts := by
  intro r hr
  obtain ⟨part, hpart, hr⟩ := List.mem_flatMap.mp hr
  obtain ⟨source, _, hcontribution⟩ :=
    exists_of_forall₂_of_mem (forall₂_of_contributions_eq_ok h).flip hpart
  obtain ⟨told, htold⟩ := (Source.gives_of_contribution hcontribution).exists_eq_ofStory hr
  exact ⟨source.path, told, htold⟩

end

namespace Disk

variable {disk prepared recorded : Disk} {root : Place} {path : Path} {settings : Settings}
  {catalog : Catalog}

/-- The reader answers for every file below the root. -/
def Answered (disk : Disk) (root : Place) (style : ReadingStyle) : Prop :=
  ∀ names content, (names, Node.file content) ∈ disk.below root →
    (Source.mk names content).Answered style

/-- Whether the reader answers is decided file by file. -/
theorem answered_of_below {style : ReadingStyle}
    (h : ∀ entry ∈ disk.below root, (match entry.2 with
      | .file content => decide ((Source.mk entry.1 content).Answered style)
      | _ => true) = true) : disk.Answered root style :=
  fun _ _ hmem => of_decide_eq_true (h _ hmem)

/-! ## Writing the catalog -/

/-- An output directory that can be written to: it is there or can be made, and its two files have
places of their own, at which no directory stands. -/
structure Writable (disk : Disk) (path : Path) (prepared : Disk) : Prop where
  made : disk.makeDirectories path = .ok prepared
  places : ∃ place spot, prepared.locate (path.child storiesFile) = .ok place ∧
    prepared.locate (path.child summaryFile) = .ok spot ∧ place ≠ spot ∧
    prepared.get? place ≠ some .directory ∧ prepared.get? spot ≠ some .directory

/-- A file can be written where no directory stands. -/
theorem exists_write_eq_ok {place : Place} (hplace : disk.locate path = .ok place)
    (hfree : disk.get? place ≠ some .directory) (content : Bytes) :
    disk.write path content = .ok (disk.put place (.file content)) := by
  rw [write, hplace]
  dsimp only [bind, Except.bind]
  split
  · rename_i hdirectory
    exact absurd hdirectory hfree
  · rfl

/-- The records of a catalog can be written to a writable directory, and then the summary is as it
was and can still be written. -/
theorem Writable.exists_write (h : disk.Writable path prepared) (content : Bytes) :
    ∃ recorded, prepared.write (path.child storiesFile) content = .ok recorded ∧
      recorded.content? (path.child storiesFile) = some content ∧
      recorded.content? (path.child summaryFile) = prepared.content? (path.child summaryFile) ∧
      ∀ more, ∃ final, recorded.write (path.child summaryFile) more = .ok final ∧
        final.content? (path.child storiesFile) = some content ∧
        final.content? (path.child summaryFile) = some more := by
  obtain ⟨place, spot, hplace, hspot, hne, hfree, hfree'⟩ := h.places
  have hwrite := exists_write_eq_ok hplace hfree content
  have hplaceRecorded := locate_write hwrite hplace
  have hspotRecorded := locate_write hwrite hspot
  refine ⟨_, hwrite, content?_write_self hwrite, ?_, ?_⟩
  · refine content?_write_eq hwrite hplace ?_
    rw [hspotRecorded]
    exact fun heq => hne (Except.ok.inj heq).symm
  · intro more
    have hstill : (prepared.put place (.file content)).get? spot ≠ some .directory := by
      rwa [get?_put_of_ne hne.symm]
    have hsummary := exists_write_eq_ok hspotRecorded hstill more
    exact ⟨_, hsummary, content?_write_of_ne hsummary hspotRecorded hplaceRecorded hne
      (content?_write_self hwrite), content?_write_self hsummary⟩

/-- A catalog that cannot be written ends a generation after the records. -/
theorem generateInto_of_unwritable [SourceAccess]
    (hprepared : disk.makeDirectories path = .ok prepared)
    (hcatalog : (prepared.catalog root path settings).result = .ok catalog)
    (hrecords : prepared.write (path.child storiesFile) catalog.recordsText.1.utf8 = .ok recorded)
    (h : ¬(catalog.recordsText.2 = none ∧ ∃ u, catalog.summaryText = .ok u)) :
    ∃ e, (disk.generateInto root path settings).result = .error (.unwritable e) ∧
      (disk.generateInto root path settings).disk = recorded := by
  have hprepare := prepare_of_makeDirectories hprepared
  have hchange : Run.change prepared (Failure.ofDisk (path.child storiesFile)
      (prepared.write (path.child storiesFile) catalog.recordsText.1.utf8)) =
        .pure recorded () := by
    rw [hrecords]
    rfl
  cases hfault : catalog.recordsText.2 with
  | some e =>
      refine ⟨e, ?_⟩
      simp only [generateInto, Run.result_report, Run.disk_report, hprepare, Run.pure, Run.andThen,
        hcatalog, disk_catalog, writeRecords, hchange, hfault, Run.fail, and_self]
  | none =>
      cases hsummary : catalog.summaryText with
      | ok u => exact absurd ⟨hfault, u, hsummary⟩ h
      | error e =>
          refine ⟨e, ?_⟩
          simp only [generateInto, Run.result_report, Run.disk_report, hprepare, Run.pure,
            Run.andThen, hcatalog, disk_catalog, writeRecords, hchange, hfault, writeSummary,
            hsummary, Run.fail, and_self]

/-- An ignore file that cannot be read ends a generation before anything is written. -/
theorem generateInto_of_ignoreFault [SourceAccess]
    (hprepared : disk.makeDirectories path = .ok prepared)
    {fault : IgnoreFault}
    (h : prepared.ignoreFiles root settings.nestedIgnore = .error fault) :
    (disk.generateInto root path settings).result = .error (.ignoreFile fault) ∧
      (disk.generateInto root path settings).disk = prepared := by
  have hprepare := prepare_of_makeDirectories hprepared
  have hsources : prepared.sources root (settings.selection root path) = .error fault := by
    rw [sources]
    exact congrArg (· >>= _) h
  have hcatalog : prepared.catalog root path settings = .fail prepared (.ignoreFile fault) := by
    rw [Disk.catalog, hsources]
  simp only [generateInto, Run.result_report, Run.disk_report, hprepare, Run.pure, Run.andThen,
    hcatalog, Run.fail, and_self]

/-- Whatever the repository and the bytes of its files: when the settings are accepted, the output
directory can be written to and the reader answers, a generation ends in one of three ways. An
ignore file cannot be read, and nothing is written. Or every source is accounted for in a catalog;
if the catalog can be carried, the generation returns and both artifacts hold all of it, and if not,
the generation fails, the records end before the first one that cannot be written, and the summary
stays as it was. -/
theorem generate_ends [SourceAccess] (disk : Disk) (root : Place) (outDir : Option Path)
    (settings : Option Settings) {loaded : Settings} {path : Path} {prepared : Disk}
    (hloaded : disk.settingsOr root settings = .ok loaded)
    (hpath : disk.outputDir root loaded outDir = .ok path)
    (hwritable : disk.Writable path prepared)
    (hreader : disk.Answered root loaded.readingStyle) :
    (∃ fault, prepared.ignoreFiles root loaded.nestedIgnore = .error fault ∧
      (disk.generate root outDir settings).result = .error (.ignoreFile fault) ∧
      (disk.generate root outDir settings).disk = prepared) ∨
    ∃ sources catalog, prepared.sources root (loaded.selection root path) = .ok sources ∧
      catalog.Accounts loaded.readingStyle sources ∧
      (catalog.Carried → ∃ t u, catalog.recordsText = (t, none) ∧ catalog.summaryText = .ok u ∧
        (disk.generate root outDir settings).result = .ok ⟨catalog, path⟩ ∧
        (disk.generate root outDir settings).disk.content? (path.child storiesFile) =
          some t.utf8 ∧
        (disk.generate root outDir settings).disk.content? (path.child summaryFile) =
          some u.utf8) ∧
      (¬catalog.Carried → ∃ e,
        (disk.generate root outDir settings).result = .error (.unwritable e) ∧
        (disk.generate root outDir settings).disk.content? (path.child storiesFile) =
          some catalog.recordsText.1.utf8 ∧
        (disk.generate root outDir settings).disk.content? (path.child summaryFile) =
          prepared.content? (path.child summaryFile)) := by
  rw [generate_eq_generateInto hloaded hpath]
  cases hignoring : prepared.ignoreFiles root loaded.nestedIgnore with
  | error fault => exact .inl ⟨fault, rfl, generateInto_of_ignoreFault hwritable.made hignoring⟩
  | ok ignoring =>
      have hselected : prepared.ignoreFiles root (loaded.selection root path).nestedIgnore =
          .ok ignoring := hignoring
      have hsources := sources_of_ignoreFiles hselected
      -- every source was a file before the directory was made, so the reader answers for it
      obtain ⟨log, parts, hparts⟩ := exists_contributions_eq_ok fun source hsource =>
        hreader _ _ (mem_below_makeDirectories hwritable.made
          (mem_below_of_mem_sources hsources hsource))
      have hcatalog := catalog_of_contributions hsources (congrArg Prod.snd hparts)
      obtain ⟨recorded, hrecords, hstories, hsummary, hmore⟩ :=
        hwritable.exists_write (Catalog.ofContributions parts).recordsText.1.utf8
      refine .inr ⟨_, _, hsources, Catalog.accounts_ofContributions hparts, ?_, ?_⟩
      · intro hcarried
        obtain ⟨hnone, u, hu⟩ := (Catalog.carried_iff (Catalog.ofStories hparts)).mp hcarried
        obtain ⟨final, hfinal, hcontents⟩ := hmore u.utf8
        have ht : (Catalog.ofContributions parts).recordsText = (_, none) := Prod.ext rfl hnone
        obtain ⟨hresult, hdisk⟩ := generateInto_eq_ok hwritable.made hcatalog ht hrecords hu hfinal
        rw [hdisk]
        exact ⟨_, u, ht, hu, hresult, hcontents⟩
      · intro hcarried
        rw [Catalog.carried_iff (Catalog.ofStories hparts)] at hcarried
        obtain ⟨e, hresult, hdisk⟩ :=
          generateInto_of_unwritable hwritable.made hcatalog hrecords hcarried
        rw [hdisk]
        exact ⟨e, hresult, hstories, hsummary⟩

end Disk

namespace OneStory

open SourceAccess

/-- The repository with one story and a file that is no text: both artifacts are complete. -/
theorem generate_ends_complete :
    disk.Writable outDir disk ∧ disk.Answered root settings.readingStyle ∧
      ∃ t u, catalog.recordsText = (t, none) ∧ catalog.summaryText = .ok u ∧
        (disk.generate root none (some settings)).result = .ok ⟨catalog, outDir⟩ ∧
        (disk.generate root none (some settings)).disk.content? (outDir.child storiesFile) =
          some t.utf8 ∧
        (disk.generate root none (some settings)).disk.content? (outDir.child summaryFile) =
          some u.utf8 := by
  have hwritable : disk.Writable outDir disk :=
    ⟨rfl, _, _, rfl, rfl, by decide, by decide, by decide⟩
  have hanswered : disk.Answered root settings.readingStyle :=
    Disk.answered_of_below (by decide +kernel)
  obtain ⟨_, _, hresult, _⟩ := generate_eq
  refine ⟨hwritable, hanswered, ?_⟩
  rcases Disk.generate_ends disk root none (some settings) rfl rfl hwritable hanswered with
    ⟨fault, hfault, _⟩ | ⟨_, found, _, _, hcarried, hleft⟩
  · have hread : disk.ignoreFiles root settings.nestedIgnore = .ok [] := rfl
    cases hread.symm.trans hfault
  · by_cases hcase : found.Carried
    · obtain ⟨t, u, ht, hu, hfound, hcontents⟩ := hcarried hcase
      cases hresult.symm.trans hfound
      exact ⟨t, u, ht, hu, hresult, hcontents⟩
    · obtain ⟨e, hfailed, _⟩ := hleft hcase
      cases hresult.symm.trans hfailed

end OneStory

/-! A repository whose one story has a kind with an escape that stands for half a character. -/

namespace HalfCharacter

open SourceAccess

def root : Place := ["repo"]

def outDir : Path := ⟨.top, ["repo", ".storymap"]⟩

def disk : Disk where
  entries :=
    [(["repo"], .directory),
      (["repo", "a.js"], .file (Text.utf8 "storiesOf('\\ud800').add('Basic', fn);\n"))]
  distinct := by decide

def settings : Settings :=
  { Settings.standard with backend := .strict }

/-- The reader gives a tree and the directory can be written to, but the record cannot be written:
the records are empty and there is no summary. -/
theorem generate_unwritable :
    disk.Writable outDir (disk.put outDir.names .directory) ∧
      disk.Answered root settings.readingStyle ∧
      ((disk.generate root none (some settings)).result matches
        .error (.unwritable .surrogate)) = true ∧
      (disk.generate root none (some settings)).disk.content? (outDir.child storiesFile) =
        some [] ∧
      (disk.generate root none (some settings)).disk.content? (outDir.child summaryFile) = none :=
  ⟨⟨rfl, _, _, rfl, rfl, by decide, by decide, by decide⟩,
    Disk.answered_of_below (by decide +kernel), by decide +kernel⟩

end HalfCharacter

end StoryCatalog
