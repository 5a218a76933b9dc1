import StoryCatalog.Proofs.Catalog.Reproducible

/-!
# Which files a generation reads

Settings want a file for its path (`Settings.Wants`). Of the wanted files, a generation reads those
whose path does not start with the first name on the way from the root to the output directory
(`mem_sources_iff`). These are the wanted files outside the output directory exactly when no wanted
file lies below that name and beside the output directory (`generate_reads`). In particular they are
when the output directory stands in the root itself.
-/

namespace StoryCatalog

/-- Settings want the file with this path: it has a wanted suffix, no ignore file ignores it, and
the globs let it pass. -/
structure Settings.Wants (settings : Settings) (ignoring : List IgnoreFile) (names : List Name) :
    Prop where
  extension : ∃ suffix ∈ settings.extensions, suffix.toLower = (names.getLastD []).suffix.toLower
  notIgnored : ∀ file ∈ ignoring, file.ignores names = false
  included : settings.included ≠ [] →
    ∃ glob ∈ settings.included, globMatches glob (joinNames names) = true
  notExcluded : ∀ glob ∈ settings.excluded, globMatches glob (joinNames names) = false

/-- A path starts with the first name on the way from the root to the output directory. -/
def Path.Shadows (outDir : Path) (root : Place) (names : List Name) : Prop :=
  ∃ first rest, outDir.below? root.path = some (first :: rest) ∧ first ≠ [] ∧
    names.head? = some first

/-- An output directory below the root shadows the paths that start with its first name. -/
theorem Place.shadows_path_iff {root : Place} {first : Name} {rest names : List Name}
    (hfirst : first ≠ []) :
    (Place.path (root ++ first :: rest)).Shadows root names ↔ names.head? = some first := by
  constructor
  · rintro ⟨_, _, hsome, _, hhead⟩
    cases (Place.below?_path root (first :: rest)).symm.trans hsome
    exact hhead
  · exact fun hhead => ⟨first, rest, Place.below?_path root _, hfirst, hhead⟩

theorem Path.not_shadows_iff {outDir : Path} {root : Place} {names : List Name} :
    ¬outDir.Shadows root names ↔
      outDir.firstBelow root.path = [] ∨ names.head? ≠ some (outDir.firstBelow root.path) := by
  unfold firstBelow Shadows
  split
  · rename_i first rest hbelow
    rw [hbelow]
    constructor
    · intro hshadows
      by_cases hfirst : first = []
      · exact .inl hfirst
      · exact .inr fun hhead => hshadows ⟨first, rest, rfl, hfirst, hhead⟩
    · rintro hleft ⟨_, _, ⟨⟩, hfirst, hhead⟩
      exact hleft.elim hfirst fun hne => hne hhead
  · rename_i hbelow
    refine iff_of_true ?_ (.inl rfl)
    rintro ⟨first, rest, hsome, _⟩
    exact hbelow first rest hsome

/-- What settings select is what they want and the output directory does not shadow. -/
theorem Settings.selects_iff {settings : Settings} {root : Place} {outDir : Path}
    {ignoring : List IgnoreFile} {names : List Name} :
    ((settings.selection root outDir).hasExtension names = true ∧
        (settings.selection root outDir).admits ignoring names = true) ↔
      settings.Wants ignoring names ∧ ¬outDir.Shadows root names := by
  simp only [Selection.hasExtension, Selection.admits, Settings.selection, Bool.and_eq_true,
    Bool.or_eq_true, List.contains_iff_mem, List.mem_map, List.isEmpty_iff, Bool.not_eq_true',
    List.any_eq_false, List.any_eq_true, Bool.not_eq_true]
  rw [Path.not_shadows_iff]
  constructor
  · rintro ⟨hextension, ⟨⟨hshadows, hignored⟩, hincluded⟩, hexcluded⟩
    exact ⟨⟨hextension, hignored, hincluded.resolve_left, hexcluded⟩,
      hshadows.imp_right of_decide_eq_true⟩
  · rintro ⟨hwants, hshadows⟩
    refine ⟨hwants.extension, ⟨⟨hshadows.imp_right decide_eq_true, hwants.notIgnored⟩, ?_⟩,
      hwants.notExcluded⟩
    by_cases hincluded : settings.included = []
    · exact .inl hincluded
    · exact .inr (hwants.included hincluded)

namespace Disk

/-- A regular file below the root that settings want. -/
structure Wanted (disk : Disk) (root : Place) (settings : Settings) (ignoring : List IgnoreFile)
    (source : Source) : Prop where
  below : source.names ≠ []
  file : disk.get? (root ++ source.names) = some (.file source.content)
  wants : settings.Wants ignoring source.names

variable {disk prepared : Disk} {root place : Place} {settings : Settings} {outDir : Path}
  {ignoring : List IgnoreFile} {sources : List Source}

/-- After the output directory is made, the sources are the wanted files that were there before and
that the output directory does not shadow. -/
theorem mem_sources_iff (hprepared : disk.makeDirectories outDir = .ok prepared)
    (hignoring : prepared.ignoreFiles root settings.nestedIgnore = .ok ignoring)
    (hsources : prepared.sources root (settings.selection root outDir) = .ok sources)
    (source : Source) :
    source ∈ sources ↔
      disk.Wanted root settings ignoring source ∧ ¬outDir.Shadows root source.names := by
  rw [mem_sources hsources hignoring, mem_below, Settings.selects_iff]
  obtain ⟨folders, hadds, -⟩ := addsDirectories_makeDirectories hprepared
  constructor
  · rintro ⟨⟨hbelow, hfile⟩, hwants, hshadows⟩
    exact ⟨⟨hbelow, get?_of_makeDirectories hprepared hfile, hwants⟩, hshadows⟩
  · rintro ⟨hwanted, hshadows⟩
    exact ⟨⟨hwanted.below, hadds.get?_of_some hwanted.file⟩, hwanted.wants, hshadows⟩

/-- The sources are the wanted files outside a place exactly when the output directory shadows the
wanted files inside it and no others. -/
theorem forall_mem_sources_iff
    (h : ∀ source, source ∈ sources ↔
      disk.Wanted root settings ignoring source ∧ ¬outDir.Shadows root source.names)
    (place : Place) :
    (∀ source, source ∈ sources ↔
        disk.Wanted root settings ignoring source ∧ ¬place <+: root ++ source.names) ↔
      ∀ source, disk.Wanted root settings ignoring source →
        (outDir.Shadows root source.names ↔ place <+: root ++ source.names) := by
  refine forall_congr' fun source => ?_
  rw [h source, and_congr_right_iff]
  exact forall_congr' fun _ => not_iff_not

/-- A resolved output directory below the root shadows all that lies inside it. -/
theorem shadows_iff_prefix_iff {first : Name} {rest : List Name} (hfirst : first ≠ [])
    {wanted : Source → Prop} :
    (∀ source, wanted source →
        ((Place.path (root ++ first :: rest)).Shadows root source.names ↔
          root ++ first :: rest <+: root ++ source.names)) ↔
      ∀ source, wanted source → source.names.head? = some first →
        first :: rest <+: source.names := by
  refine forall_congr' fun source => forall_congr' fun _ => ?_
  rw [Place.shadows_path_iff hfirst, List.prefix_append_right_inj]
  refine ⟨Iff.mp, fun h => ⟨h, ?_⟩⟩
  rintro ⟨more, hmore⟩
  rw [← hmore]
  rfl

/-- Whatever the repository, its settings and the directory asked for: a generation that returns has
read the wanted files that the output directory does not shadow. They are the wanted files outside
the output directory exactly when it shadows those inside it and no others. When the output
directory is resolved and lies below the root, this means that the wanted files below its first name
all lie inside it. -/
theorem generate_reads [SourceAccess] (disk : Disk) (root : Place) (outDir : Option Path)
    (settings : Option Settings) {g : Generation}
    (h : (disk.generate root outDir settings).result = .ok g) :
    ∃ loaded prepared ignoring sources place, disk.settingsOr root settings = .ok loaded ∧
      disk.makeDirectories g.outDir = .ok prepared ∧
      prepared.ignoreFiles root loaded.nestedIgnore = .ok ignoring ∧
      prepared.locate g.outDir = .ok place ∧
      g.catalog.Accounts loaded.readingStyle sources ∧ sources.Nodup ∧
      (∀ source, source ∈ sources ↔
        disk.Wanted root loaded ignoring source ∧ ¬g.outDir.Shadows root source.names) ∧
      ((∀ source, source ∈ sources ↔
          disk.Wanted root loaded ignoring source ∧ ¬place <+: root ++ source.names) ↔
        ∀ source, disk.Wanted root loaded ignoring source →
          (g.outDir.Shadows root source.names ↔ place <+: root ++ source.names)) ∧
      ∀ first rest, first ≠ [] → place = root ++ first :: rest → g.outDir = place.path →
        ((∀ source, source ∈ sources ↔
            disk.Wanted root loaded ignoring source ∧ ¬place <+: root ++ source.names) ↔
          ∀ source, disk.Wanted root loaded ignoring source → source.names.head? = some first →
            first :: rest <+: source.names) := by
  obtain ⟨loaded, prepared, recorded, t, _, hloaded, hprepared, hcatalog, _, hrecords, _⟩ :=
    generate_cases h
  obtain ⟨sources, hsources, haccounts⟩ := accounts_catalog hcatalog
  obtain ⟨ignoring, hignoring, _⟩ := exists_of_sources_eq_ok hsources
  -- a file was written there, so the path of the output directory leads somewhere
  obtain ⟨_, hstories, -⟩ := write_cases hrecords
  obtain ⟨place, hleads, _⟩ := (locate_eq_ok_iff.mp hstories).directory
  have hmem := mem_sources_iff hprepared hignoring hsources
  have hexact := forall_mem_sources_iff hmem place
  refine ⟨loaded, prepared, ignoring, sources, place, hloaded, hprepared, hignoring,
    locate_eq_ok_iff.mpr hleads, haccounts, nodup_sources hsources, hmem, hexact, ?_⟩
  intro first rest hfirst hplace hresolved
  rw [hexact, hresolved, hplace]
  exact shadows_iff_prefix_iff hfirst

end Disk

namespace OneStory

open SourceAccess

/-- The output directory stands in the root, and the wanted files outside it are read. -/
theorem generate_reads_outside :
    (disk.generate root none (some settings)).result = .ok ⟨catalog, outDir⟩ ∧
      ∃ sources, catalog.Accounts settings.readingStyle sources ∧
        ⟨["a.js"], Text.utf8 source⟩ ∈ sources ∧
        ∀ source, source ∈ sources ↔
          disk.Wanted root settings [] source ∧ ¬outDir.names <+: root ++ source.names := by
  obtain ⟨_, _, hresult, _⟩ := generate_eq
  obtain ⟨_, prepared, ignoring, sources, place, ⟨⟩, hprepared, hignoring, hlocate, haccounts, _, _,
    _, hexact⟩ := Disk.generate_reads disk root none (some settings) hresult
  have hsame : disk.makeDirectories outDir = .ok disk := rfl
  cases hprepared.symm.trans hsame
  have hplace : disk.locate outDir = .ok outDir.names := rfl
  cases hlocate.symm.trans hplace
  have hnone : disk.ignoreFiles root settings.nestedIgnore = .ok [] := rfl
  cases hignoring.symm.trans hnone
  have hreads := (hexact ".storymap" [] (by decide) rfl rfl).mpr ?_
  · refine ⟨hresult, sources, haccounts, (hreads _).mpr ⟨⟨by simp, rfl, ?_⟩, by decide⟩, hreads⟩
    exact ⟨by decide +kernel, by simp, by decide, by decide +kernel⟩
  · intro source _ hhead
    obtain ⟨rest, hnames⟩ := List.head?_eq_some_iff.mp hhead
    rw [hnames]
    exact List.prefix_append _ rest

end OneStory

namespace NestedOutput

open SourceAccess

/-- The file is wanted and lies outside the output directory, and still it is not read: it lies
below the first name of the output directory. -/
theorem card_not_mem_sources :
    (disk.generate root (some outDir) none).result = .ok ⟨catalog, outDir⟩ ∧
      disk.makeDirectories outDir = .ok (disk.put outDir.names .directory) ∧
      (disk.put outDir.names .directory).ignoreFiles root Settings.standard.nestedIgnore = .ok [] ∧
      disk.Wanted root Settings.standard [] card ∧ ¬outDir.names <+: root ++ card.names ∧
      ∀ sources, catalog.Accounts Settings.standard.readingStyle sources → card ∉ sources := by
  refine ⟨Generation.result_eq_ok (by decide +kernel), rfl, rfl, ⟨by decide, rfl, ?_⟩, by decide,
    ?_⟩
  · exact ⟨by decide +kernel, by simp, by decide, by decide +kernel⟩
  · intro sources haccounts hmem
    have hcount : (0 : Int) = sources.length := haccounts.fileCount
    have hpos := List.length_pos_of_mem hmem
    omega

end NestedOutput

end StoryCatalog
