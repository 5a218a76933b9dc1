import StoryCatalog.Proofs.Catalog.Accounts
import StoryCatalog.Proofs.Catalog.Fresh

/-!
# Which fresh artifacts verify

Verification generates again into a directory of its own and compares the files. Fresh artifacts
verify exactly when both scans find the same sources (`AddsArtifacts.verify_eq_empty_iff`). The
first scan leaves out all that lies below the first name on the way from the root to the output
directory, and the second one leaves out nothing. So sources beside the output directory make fresh
artifacts differ, unless the output directory stands in the root itself
(`verify_generate_eq_empty_iff`).
-/

namespace StoryCatalog

/-- Of two files by name, nothing differs exactly when each has the same content. -/
theorem Verification.compare_eq_empty_iff {first second : Name} (hne : first ≠ second)
    {content other more extra : Bytes} :
    compare [(first, content), (second, more)] [(first, other), (second, extra)] = ⟨[], [], []⟩ ↔
      content = other ∧ more = extra := by
  have hbeq : (second == first) = false := beq_false_of_ne hne.symm
  have hsorted : ∀ names : List Text, names.mergeSort Text.le = [] ↔ names = [] := by
    intro names
    rw [← List.length_eq_zero_iff, List.length_mergeSort, List.length_eq_zero_iff]
  simp [compare, hsorted, List.lookup_cons, hbeq]

/-- Summaries that are written alike count the same number of files. -/
theorem Summary.fileCount_eq_of_utf8_eq {s s' : Summary} (hkinds : (s.kinds.map Prod.fst).Nodup)
    (hkinds' : (s'.kinds.map Prod.fst).Nodup) {u u' : Text} (hu : Json.write s.toDatum = .ok u)
    (hu' : Json.write s'.toDatum = .ok u') (h : u.utf8 = u'.utf8) : s.fileCount = s'.fileCount := by
  have hread := Json.read_writeAt (plain_toDatum hkinds) hu
  rw [h, Json.read_writeAt (plain_toDatum hkinds') hu'] at hread
  have hsame := congrArg ofDatum (Option.some.inj hread)
  rw [ofDatum_canonical, ofDatum_canonical] at hsame
  exact (congrArg Summary.fileCount (Schema.Checked.ok.inj hsame)).symm

namespace Disk

variable {disk after : Disk} {root place spot : Place} {outDir scratch : Path}
  {folders : List (Place × Node)} {records summary : Bytes}

/-- Verification that returns has found a directory, generated anew and compared the files. -/
theorem verify_eq_ok_iff [SourceAccess] {artifacts scratch : Path} {settings : Option Settings}
    {found : Verification} :
    (disk.verify root artifacts scratch settings).result = .ok found ↔
      disk.requireArtifacts artifacts = .ok () ∧
        ∃ g, (disk.generate root (some scratch) settings).result = .ok g ∧
          found = Verification.compare
            ((disk.generate root (some scratch) settings).disk.listing artifacts)
            ((disk.generate root (some scratch) settings).disk.listing scratch) := by
  constructor
  · intro h
    obtain ⟨_, hrequired, h, _⟩ := Run.andThen_eq_ok h
    obtain ⟨g, hg, h, _⟩ := Run.andThen_eq_ok h
    exact ⟨hrequired, g, hg, (Except.ok.inj h).symm⟩
  · rintro ⟨hrequired, g, hg, rfl⟩
    simp only [verify, Run.look, Run.andThen, hrequired, hg]

/-! ## Generating again -/

/-- Adding no settings file leaves the settings as they were. -/
theorem Adds.settingsOr_eq {changed : Disk} {added : List (Place × Node)}
    (h : disk.Adds added changed) (hfirm : disk.Firm root (Text.ofString Settings.fileName))
    (hadded : NoFileNamed added (Text.ofString Settings.fileName)) (settings : Option Settings) :
    changed.settingsOr root settings = disk.settingsOr root settings := by
  cases settings with
  | some settings => rfl
  | none => simp only [settingsOr, loadSettings, h.content?_eq hfirm hadded]

/-- A path for a directory that verification generates into: it lies outside the root, the directory
above it was there before the artifacts were, and nothing stands at its place. -/
structure IsScratch (disk after : Disk) (root : Place) (scratch : Path) : Prop where
  outside : scratch.below? root.path = none
  vacant : ∃ spot, disk.locateLast scratch = .ok spot ∧ after.Vacant spot

theorem IsScratch.firstBelow_eq_nil {after : Disk} {scratch : Path}
    (h : disk.IsScratch after root scratch) : scratch.firstBelow root.path = [] := by
  rw [Path.firstBelow, h.outside]

/-- A path that leads elsewhere, to a vacant place, is one for scratch. -/
theorem AddsArtifacts.isScratch
    (h : disk.AddsArtifacts outDir place [(place, .directory)] records summary after)
    (houtside : scratch.below? root.path = none) (hlast : disk.locateLast scratch = .ok spot)
    (hvacant : disk.Vacant spot) (hspot : ¬spot <+: place) (hplace : ¬place <+: spot) :
    disk.IsScratch after root scratch := by
  refine ⟨houtside, spot, hlast, h.adds.vacant hvacant ?_⟩
  intro entry hentry hprefix
  have hbelow := prefix_of_mem_append_artifactEntries hentry
  exact (List.prefix_or_prefix_of_prefix hprefix hbelow).elim hspot hplace

/-- What is made in a vacant place whose parent was there before the artifacts is apart from
them. -/
theorem AddsArtifacts.apart (h : disk.AddsArtifacts outDir place folders records summary after)
    (hlast : disk.locateLast scratch = .ok spot) (hspot : after.Vacant spot) {other : Place}
    (hother : spot <+: other) : ¬place <+: other := by
  intro hplace
  have hfree : disk.get? spot = none := by
    rw [Option.eq_none_iff_forall_ne_some]
    intro node hget
    exact hspot.not_prefix (h.adds.get?_of_some hget) List.prefix_rfl
  obtain ⟨_, parent, name, _, _, _, hparent, rfl⟩ := exists_of_locateLast_of_free hlast hfree
  have hbelow := hspot.not_prefix h.directory
  rcases List.prefix_or_prefix_of_prefix hplace hother with hprefix | hprefix
  · rcases List.prefix_concat_iff.mp hprefix with rfl | hprefix
    · exact hbelow List.prefix_rfl
    · exact h.vacant.not_prefix hparent hprefix
  · exact hbelow hprefix

/-- The directory that is made for a second generation changes nothing about its catalog. -/
theorem AddsArtifacts.result_catalog_put [SourceAccess]
    (h : disk.AddsArtifacts outDir place folders records summary after)
    (hfirm : disk.Firm root ignoreFileName)
    (hadds : after.Adds [(spot, .directory)] (after.put spot .directory)) (settings : Settings) :
    ((after.put spot .directory).catalog root scratch settings).result =
      (after.catalog root scratch settings).result := by
  refine result_catalog_congr (hadds.sources_eq_of_unselected (by simp) ?_)
  have hnone : NoFileNamed (folders ++ artifactEntries place records summary) ignoreFileName :=
    h.noFileNamed (by decide)
  rw [h.adds.ignoreFiles_eq hfirm hnone, (h.adds.trans hadds).ignoreFiles_eq hfirm]
  intro other content hmem
  rcases List.mem_append.mp hmem with hmem | hmem
  · exact hnone other content hmem
  · simp at hmem

/-- After a second generation, both directories hold what was written into them. -/
theorem AddsArtifacts.listings [SourceAccess]
    (h : disk.AddsArtifacts outDir place folders records summary after)
    (hfirm : disk.Firm root ignoreFileName) (hlast : disk.locateLast scratch = .ok spot)
    (hspot : after.Vacant spot) {settings : Settings} {g : Generation}
    (hagain : (after.generateInto root scratch settings).result = .ok g) :
    ∃ t u, (after.catalog root scratch settings).result = .ok g.catalog ∧
      g.catalog.recordsText = (t, none) ∧ g.catalog.summaryText = .ok u ∧
      (after.generateInto root scratch settings).disk.listing outDir =
        [(Text.ofString storiesFile, records), (Text.ofString summaryFile, summary)] ∧
      (after.generateInto root scratch settings).disk.listing scratch =
        [(Text.ofString storiesFile, t.utf8), (Text.ofString summaryFile, u.utf8)] := by
  have hlast' := h.adds.locateLast_eq hlast
  obtain ⟨_, hadds, _⟩ := makeDirectories_of_free hlast' hspot.get?_eq_none
  obtain ⟨t, u, hcatalog, ht, hu, hartifacts⟩ := generateInto_adds_of_vacant hagain hlast' hspot
  rw [h.result_catalog_put hfirm hadds] at hcatalog
  refine ⟨t, u, hcatalog, ht, hu, h.listing_eq hartifacts.adds ?_,
    hartifacts.listing_eq (.refl _) (by simp)⟩
  exact fun entry hentry => h.apart hlast hspot (prefix_of_mem_append_artifactEntries hentry)

/-- When the summaries of both generations are written alike, the sources are the same. -/
theorem AddsArtifacts.sources_eq_of_summaries [SourceAccess]
    (h : disk.AddsArtifacts outDir place folders records summary after)
    (hfirm : disk.Firm root ignoreFileName) (houtside : scratch.firstBelow root.path = [])
    {settings : Settings} {catalog other : Catalog}
    (hcatalog : (disk.catalog root outDir settings).result = .ok catalog)
    (hother : (after.catalog root scratch settings).result = .ok other) {u u' : Text}
    (hu : catalog.summaryText = .ok u) (hu' : other.summaryText = .ok u')
    (heq : u.utf8 = u'.utf8) :
    after.sources root (settings.selection root scratch) =
      disk.sources root (settings.selection root outDir) := by
  obtain ⟨sources, hsources, haccounts⟩ := accounts_catalog hcatalog
  obtain ⟨others, hothers, haccounts'⟩ := accounts_catalog hother
  obtain ⟨ignoring, hignoring, hignoring'⟩ := h.exists_ignoring hfirm hsources
  have hcount := Summary.fileCount_eq_of_utf8_eq (haccounts.ascending.imp And.right)
    (haccounts'.ascending.imp And.right) hu hu' heq
  rw [haccounts.fileCount, haccounts'.fileCount] at hcount
  have hname : (settings.selection root scratch).outputName = [] := houtside
  -- the earlier sources are among the later ones, so it is enough that there are no more of them
  rw [hsources, hothers, h.adds.sources_eq_of_length_le hname hignoring hignoring' hsources hothers
    (by omega)]

/-! ## Fresh artifacts -/

/-- Fresh artifacts verify exactly when their sources are found again. -/
theorem AddsArtifacts.verify_eq_empty_iff [SourceAccess] {t u : Text}
    (h : disk.AddsArtifacts outDir place folders t.utf8 u.utf8 after) {settings : Option Settings}
    {loaded : Settings} (hloaded : disk.settingsOr root settings = .ok loaded)
    (hfirm : ∀ name ∈ [ignoreFileName, Text.ofString Settings.fileName], disk.Firm root name)
    {catalog : Catalog} (hcatalog : (disk.catalog root outDir loaded).result = .ok catalog)
    (ht : catalog.recordsText = (t, none)) (hu : catalog.summaryText = .ok u)
    (hscratch : disk.IsScratch after root scratch) :
    (after.verify root outDir scratch settings).result = .ok ⟨[], [], []⟩ ↔
      after.sources root (loaded.selection root scratch) =
        disk.sources root (loaded.selection root outDir) := by
  obtain ⟨spot, hlast, hspot⟩ := hscratch.vacant
  have hlast' := h.adds.locateLast_eq hlast
  obtain ⟨_, hadds, _⟩ := makeDirectories_of_free hlast' hspot.get?_eq_none
  have hignore : disk.Firm root ignoreFileName := hfirm _ List.mem_cons_self
  have hsettings : after.settingsOr root settings = .ok loaded := by
    rw [h.adds.settingsOr_eq (hfirm _ (by simp)) (h.noFileNamed (by decide)), hloaded]
  have hrequired : after.requireArtifacts outDir = .ok () := by
    simp only [requireArtifacts, node?, h.locate, h.directory]
  rw [verify_eq_ok_iff, generate_eq_generateInto hsettings rfl]
  constructor
  -- of the two files, the summary is the one that tells how many sources there were
  · rintro ⟨_, g, hagain, hfound⟩
    obtain ⟨t', u', hcatalog', _, hu', hlisting, hlisting'⟩ :=
      h.listings hignore hlast hspot hagain
    rw [hlisting, hlisting', eq_comm, Verification.compare_eq_empty_iff (by decide)] at hfound
    exact h.sources_eq_of_summaries hignore hscratch.firstBelow_eq_nil hcatalog hcatalog' hu hu'
      hfound.2
  · intro hsame
    have hagain : (after.generateInto root scratch loaded).result = .ok ⟨catalog, scratch⟩ := by
      refine (generateInto_of_vacant hlast' hspot ?_ ht hu).1
      rw [h.result_catalog_put hignore hadds, result_catalog_congr hsame, hcatalog]
    obtain ⟨t', u', _, ht', hu', hlisting, hlisting'⟩ := h.listings hignore hlast hspot hagain
    cases ht.symm.trans ht'
    cases hu.symm.trans hu'
    refine ⟨hrequired, _, hagain, ?_⟩
    rw [hlisting, hlisting', eq_comm, Verification.compare_eq_empty_iff (by decide)]
    exact ⟨rfl, rfl⟩

/-- Whatever the repository, its settings and the directory asked for: artifacts that were generated
into a directory of their own, and then generated again elsewhere, verify exactly when every file
that is selected the second time was there before and does not lie below the first name on the way
from the root to the output directory. -/
theorem verify_generate_eq_empty_iff [SourceAccess] (disk : Disk) (root : Place)
    (outDir : Option Path) (settings : Option Settings) {g : Generation} {loaded : Settings}
    (h : (disk.generate root outDir settings).result = .ok g)
    (hloaded : disk.settingsOr root settings = .ok loaded)
    (hfirm : ∀ name ∈ [ignoreFileName, Text.ofString Settings.fileName], disk.Firm root name)
    (hfresh : ∀ place, (disk.generate root outDir settings).disk.locate g.outDir = .ok place →
      disk.Vacant place)
    {scratch : Path}
    (hscratch : disk.IsScratch (disk.generate root outDir settings).disk root scratch) :
    ((disk.generate root outDir settings).disk.verify root g.outDir scratch settings).result =
        .ok ⟨[], [], []⟩ ↔
      ∃ sources, (disk.generate root outDir settings).disk.sources root
          (loaded.selection root scratch) = .ok sources ∧
        ∀ source ∈ sources, disk.get? (root ++ source.names) = some (.file source.content) ∧
          (g.outDir.firstBelow root.path = [] ∨
            source.names.head? ≠ some (g.outDir.firstBelow root.path)) := by
  obtain ⟨_, path, hloaded', _, h, hdisk⟩ := exists_of_generate_eq_ok h
  cases hloaded.symm.trans hloaded'
  obtain ⟨_, _, _, _, rfl, _⟩ := generateInto_cases h
  rw [hdisk] at hfresh hscratch ⊢
  have hignore : disk.Firm root ignoreFileName := hfirm _ List.mem_cons_self
  obtain ⟨place, folders, t, u, hcatalog, ht, hu, hartifacts⟩ :=
    exists_addsArtifacts h hignore hfresh
  rw [hartifacts.verify_eq_empty_iff hloaded hfirm hcatalog ht hu hscratch]
  obtain ⟨sources, hsources, _⟩ := accounts_catalog hcatalog
  obtain ⟨ignoring, hignoring, hignoring'⟩ := hartifacts.exists_ignoring hignore hsources
  have hname : (loaded.selection root scratch).outputName = [] := hscratch.firstBelow_eq_nil
  constructor
  · intro hsame
    rw [hsources] at hsame
    refine ⟨sources, hsame, ?_⟩
    exact (hartifacts.adds.sources_eq_iff hname hignoring hignoring' hsources hsame).mp rfl
  · rintro ⟨others, hothers, hall⟩
    rw [hothers, hsources,
      (hartifacts.adds.sources_eq_iff hname hignoring hignoring' hsources hothers).mpr hall]

end Disk

/-! The repository with one story before anything was generated. -/

namespace OneStory

open SourceAccess

def bare : Disk where
  entries :=
    [(["repo"], .directory), (["repo", "a.js"], .file (Text.utf8 source)),
      (["repo", "b.js"], .file [0xFF]), (["tmp"], .directory)]
  distinct := by decide

def scratch : Path := ⟨.top, ["tmp", "verify"]⟩

theorem firm_bare : ∀ name ∈ [ignoreFileName, Text.ofString Settings.fileName],
    bare.Firm root name := by
  intro name hname
  simp only [List.mem_cons, List.not_mem_nil, or_false] at hname
  rcases hname with rfl | rfl
  · exact ⟨_, rfl, fun _ => rfl⟩
  · exact ⟨_, rfl, fun _ => rfl⟩

theorem vacant_bare : bare.Vacant outDir.names :=
  Disk.vacant_of_entries (by decide) (by decide)

/-- The artifacts of the one story verify. -/
theorem verify_generate_bare :
    (bare.generate root (some outDir) (some settings)).result = .ok ⟨catalog, outDir⟩ ∧
      catalog.records.map StoryRecord.story = ["\n"] ∧
      bare.Vacant outDir.names ∧
      bare.IsScratch (bare.generate root (some outDir) (some settings)).disk root scratch ∧
      ((bare.generate root (some outDir) (some settings)).disk.verify root outDir scratch
        (some settings)).result = .ok ⟨[], [], []⟩ := by
  obtain ⟨t, u, ht, hu⟩ := exists_texts
  have hinto : bare.generate root (some outDir) (some settings) =
      bare.generateInto root outDir settings := Disk.generate_eq_generateInto rfl rfl
  have hcatalog : ((bare.put outDir.names .directory).catalog root outDir settings).result =
      .ok catalog :=
    Disk.catalog_of_contributions (Disk.sources_eq_ok rfl (by decide +kernel) (by decide +kernel))
      contributions_eq
  obtain ⟨hresult, hartifacts⟩ := Disk.generateInto_of_vacant rfl vacant_bare hcatalog ht hu
  rw [← hinto] at hresult hartifacts
  have hscratch : bare.IsScratch (bare.generate root (some outDir) (some settings)).disk root
      scratch :=
    hartifacts.isScratch rfl rfl (Disk.vacant_of_entries (by decide) (by decide)) (by decide)
      (by decide)
  refine ⟨hresult, rfl, vacant_bare, hscratch, ?_⟩
  refine (Disk.verify_generate_eq_empty_iff bare root (some outDir) (some settings) hresult rfl
    firm_bare ?_ hscratch).mpr ⟨sources, ?_, ?_⟩
  · intro place hplace
    cases hartifacts.locate.symm.trans hplace
    exact vacant_bare
  · rw [hartifacts.sources_eq (firm_bare _ List.mem_cons_self) (by decide)]
    exact Disk.sources_eq_ok rfl (by decide +kernel) (by decide +kernel)
  · intro source hsource
    simp only [sources, List.mem_cons, List.not_mem_nil, or_false] at hsource
    rcases hsource with rfl | rfl
    · exact ⟨rfl, .inr (by decide)⟩
    · exact ⟨rfl, .inr (by decide)⟩

end OneStory

/-! A repository whose output directory is to be made beside the one source. -/

namespace NestedOutput

open SourceAccess

def root : Place := ["repo"]

def outDir : Path := ⟨.top, ["repo", "src", "out"]⟩

def scratch : Path := ⟨.top, ["tmp", "verify"]⟩

def card : Source :=
  ⟨["src", "Card.stories.js"], Text.utf8 "storiesOf('Card').add('Basic', fn);\n"⟩

def disk : Disk where
  entries :=
    [(["repo"], .directory), (["repo", "src"], .directory),
      (["repo", "src", "Card.stories.js"], .file card.content), (["tmp"], .directory)]
  distinct := by decide

theorem firm : ∀ name ∈ [ignoreFileName, Text.ofString Settings.fileName],
    disk.Firm root name := by
  intro name hname
  simp only [List.mem_cons, List.not_mem_nil, or_false] at hname
  rcases hname with rfl | rfl
  · exact ⟨_, rfl, fun _ => rfl⟩
  · exact ⟨_, rfl, fun _ => rfl⟩

def catalog : Catalog :=
  .ofContributions []

/-- The source beside the output directory is left out of the artifacts, but verification finds
it. -/
theorem verify_generate_ne :
    disk.Vacant outDir.names ∧
      (disk.generate root (some outDir) none).result = .ok ⟨catalog, outDir⟩ ∧
      disk.IsScratch (disk.generate root (some outDir) none).disk root scratch ∧
      ((disk.generate root (some outDir) none).disk.verify root outDir scratch none).result ≠
        .ok ⟨[], [], []⟩ := by
  obtain ⟨t, u, ht, hu⟩ : ∃ t u, catalog.recordsText = (t, none) ∧ catalog.summaryText = .ok u :=
    Catalog.exists_texts rfl (by decide +kernel)
  have hinto : disk.generate root (some outDir) none =
      disk.generateInto root outDir Settings.standard := Disk.generate_eq_generateInto rfl rfl
  have hvacant : disk.Vacant outDir.names := Disk.vacant_of_entries (by decide) (by decide)
  have hleft : disk.sources root (Settings.standard.selection root outDir) = .ok [] :=
    Disk.sources_eq_ok rfl (by decide +kernel) .nil
  have hfound : disk.sources root (Settings.standard.selection root scratch) = .ok [card] :=
    Disk.sources_eq_ok rfl (by decide +kernel) (by decide +kernel)
  have hcatalog : ((disk.put outDir.names .directory).catalog root outDir
      Settings.standard).result = .ok catalog :=
    Disk.catalog_of_contributions (Disk.sources_eq_ok rfl (by decide +kernel) .nil) rfl
  obtain ⟨hresult, hartifacts⟩ := Disk.generateInto_of_vacant rfl hvacant hcatalog ht hu
  rw [← hinto] at hresult hartifacts
  have hscratch : disk.IsScratch (disk.generate root (some outDir) none).disk root scratch :=
    hartifacts.isScratch rfl rfl (Disk.vacant_of_entries (by decide) (by decide)) (by decide)
      (by decide)
  refine ⟨hvacant, hresult, hscratch, ?_⟩
  rw [ne_eq, hartifacts.verify_eq_empty_iff rfl firm
    (Disk.catalog_of_contributions hleft rfl) ht hu hscratch,
    hartifacts.sources_eq (firm _ List.mem_cons_self) (by decide), hfound, hleft]
  simp

end NestedOutput

end StoryCatalog
