import StoryCatalog.Proofs.Disk.Differ
import StoryCatalog.Proofs.Text.Order
import StoryCatalog.Scan.Sources

/-!
# Which sources are found, and in which order

The sources of a repository are the selected files below its root (`mem_sources`). As long as no
name has a slash in it, their paths are strictly ascending (`ascending_sources`). What a file holds
has no say in which files are found, unless it is an ignore file (`filter_sources_eq`).
-/

namespace StoryCatalog

namespace Disk

/-- No file has a slash in one of the names that lead to it. -/
def WellNamed (disk : Disk) : Prop :=
  ∀ place content, disk.get? place = some (.file content) →
    ∀ name ∈ place, (0x2F : CodePoint) ∉ name

variable {disk other : Disk} {root : Place} {names : List Name}

/-- Making directories keeps every name on the disk free of separators. -/
theorem WellNamed.makeDirectories (h : disk.WellNamed) {path : Path} {made : Disk}
    (hmade : disk.makeDirectories path = .ok made) : made.WellNamed := by
  intro place content hget
  exact h place content (get?_of_makeDirectories hmade hget)

/-- Two disks that differ at one place only have names free of separators together. -/
theorem DiffersAt.wellNamed {spot : Place} (h : disk.DiffersAt other spot)
    (hnamed : disk.WellNamed) : other.WellNamed := by
  intro place content hget
  rcases h.cases place with heq | ⟨⟨old, hfile⟩, _⟩
  · exact hnamed place content (heq ▸ hget)
  · exact hnamed place old hfile

/-- A file below a place is found under names that hold no separator. -/
theorem WellNamed.of_mem_below (h : disk.WellNamed) {content : Bytes}
    (hmem : (names, .file content) ∈ disk.below root) :
    names ≠ [] ∧ ∀ name ∈ names, (0x2F : CodePoint) ∉ name := by
  obtain ⟨hne, hget⟩ := mem_below.mp hmem
  refine ⟨hne, ?_⟩
  intro name hname
  exact h _ _ hget name (List.mem_append_right root hname)

section

variable {β : Type} {pick : List Name × Node → Option β} {way : β → List Name}

/-- Whatever is picked of the files below a place, no way to a file is picked twice. -/
theorem nodup_filterMap_below (disk : Disk) (root : Place)
    (hpick : ∀ {entry b}, pick entry = some b → way b = entry.1) :
    (((disk.below root).filterMap pick).map way).Nodup :=
  (map_filterMap_sublist hpick _).nodup (nodup_below disk root)

/-- What is picked from the files below a place is sorted into strictly ascending order of paths. -/
theorem WellNamed.ascending (h : disk.WellNamed) (root : Place)
    (hpick : ∀ {entry b}, pick entry = some b →
      way b = entry.1 ∧ ∃ content, entry.2 = .file content) :
    ((((disk.below root).filterMap pick).mergeSort fun a b =>
      Text.le (joinNames (way a)) (joinNames (way b))).map fun b => joinNames (way b)).Pairwise
        Text.Before := by
  refine Text.ascending_mergeSort ?_
  have hways := nodup_filterMap_below disk root fun hb => (hpick hb).1
  have hnames : ∀ b ∈ (disk.below root).filterMap pick,
      way b ≠ [] ∧ ∀ name ∈ way b, (0x2F : CodePoint) ∉ name := by
    intro b hb
    obtain ⟨⟨names, node⟩, hmem, hb⟩ := List.mem_filterMap.mp hb
    obtain ⟨hway, content, hnode⟩ := hpick hb
    dsimp only at hway hnode
    subst hnode
    rw [hway]
    exact h.of_mem_below hmem
  rw [← Function.comp_def joinNames way, ← List.map_map]
  refine hways.map_on ?_
  intro first hfirst second hsecond heq
  obtain ⟨a, ha, rfl⟩ := List.mem_map.mp hfirst
  obtain ⟨b, hb, rfl⟩ := List.mem_map.mp hsecond
  exact joinNames_inj (hnames a ha).1 (hnames b hb).1 (hnames a ha).2 (hnames b hb).2 heq

end

/-! ## Ignore files -/

/-- With nested rules, every `.gitignore` below the root is read, in whatever folder it lies. -/
theorem mem_ignoreContents_nested {folder : List Name} {content : Bytes} :
    (folder, content) ∈ disk.ignoreContents root true ↔
      (folder ++ [ignoreFileName], .file content) ∈ disk.below root := by
  rw [ignoreContents, if_pos rfl, List.mem_mergeSort, List.mem_filterMap]
  constructor
  · rintro ⟨⟨names, node⟩, hmem, hfound⟩
    dsimp only at hfound
    split at hfound
    · split at hfound
      · rename_i hlast
        cases hfound
        obtain ⟨folder, rfl⟩ := List.getLast?_eq_some_iff.mp hlast
        rwa [List.dropLast_concat]
      · cases hfound
    · cases hfound
  · intro hmem
    exact ⟨_, hmem, by simp⟩

/-- Ignore files below the root come in strictly ascending order of their paths. -/
theorem WellNamed.ascending_ignoreContents (h : disk.WellNamed) (root : Place) :
    ((disk.ignoreContents root true).map fun found =>
      joinNames (found.1 ++ [ignoreFileName])).Pairwise Text.Before := by
  rw [ignoreContents, if_pos rfl]
  refine h.ascending root ?_
  rintro ⟨names, node⟩ ⟨folder, content⟩ hfound
  dsimp only at hfound
  split at hfound
  · split at hfound
    · rename_i hlast
      cases hfound
      obtain ⟨folder, rfl⟩ := List.getLast?_eq_some_iff.mp hlast
      exact ⟨by rw [List.dropLast_concat], content, rfl⟩
    · cases hfound
  · cases hfound

/-- Names do not lead to an ignore file: neither to one below the root, nor to the file that the
path of the ignore file of the root leads to. -/
structure NoIgnoreFile (disk : Disk) (root : Place) (names : List Name) : Prop where
  name : names.getLast? ≠ some ignoreFileName
  place : disk.locate (root.path.child ignoreFileName) ≠ .ok (root ++ names)

/-- What stands below the root is the same but for the file in question. -/
theorem DiffersAt.mem_below_iff (h : disk.DiffersAt other (root ++ names)) {way : List Name}
    (hway : way ≠ names) {node : Node} :
    (way, node) ∈ disk.below root ↔ (way, node) ∈ other.below root := by
  rw [mem_below, mem_below, h.agree (fun heq => hway (List.append_cancel_left heq))]

/-- Disks that differ where no `.gitignore` lies hold the same rules. -/
theorem DiffersAt.ignoreContents_eq (h : disk.DiffersAt other (root ++ names))
    (hfree : disk.NoIgnoreFile root names) (hnamed : disk.WellNamed) (nested : Bool) :
    disk.ignoreContents root nested = other.ignoreContents root nested := by
  cases nested with
  | true =>
      refine Text.eq_of_ascending (hnamed.ascending_ignoreContents root)
        ((h.wellNamed hnamed).ascending_ignoreContents root) ?_
      rintro ⟨folder, content⟩
      have hway : folder ++ [ignoreFileName] ≠ names := by
        rintro rfl
        exact hfree.name (List.getLast?_concat ..)
      rw [mem_ignoreContents_nested, mem_ignoreContents_nested, h.mem_below_iff hway]
  | false =>
      rw [ignoreContents, if_neg Bool.false_ne_true, ignoreContents, if_neg Bool.false_ne_true,
        h.content?_eq hfree.place]

/-- Disks that differ where no `.gitignore` lies give the same compiled rules. -/
theorem DiffersAt.ignoreFiles_eq (h : disk.DiffersAt other (root ++ names))
    (hfree : disk.NoIgnoreFile root names) (hnamed : disk.WellNamed) (nested : Bool) :
    disk.ignoreFiles root nested = other.ignoreFiles root nested := by
  rw [ignoreFiles, ignoreFiles, h.ignoreContents_eq hfree hnamed]

end Disk

/-! ## Sources -/

/-- The source that a file is, when it is selected. -/
def Selection.source? (selection : Selection) (ignoring : List IgnoreFile) :
    List Name × Node → Option Source
  | (names, .file content) =>
      if selection.hasExtension names && selection.admits ignoring names then
        some ⟨names, content⟩
      else none
  | _ => none

/-- A file is a source when its extension is searched for and its way is admitted. -/
theorem Selection.source?_eq_some_iff {selection : Selection} {ignoring : List IgnoreFile}
    {entry : List Name × Node} {source : Source} :
    selection.source? ignoring entry = some source ↔
      entry = (source.names, .file source.content) ∧ selection.hasExtension source.names = true ∧
        selection.admits ignoring source.names = true := by
  unfold source?
  split
  · rename_i names content
    rw [Option.ite_none_right_eq_some, Bool.and_eq_true]
    constructor
    · rintro ⟨hselected, ⟨⟩⟩
      exact ⟨rfl, hselected⟩
    · rintro ⟨⟨⟩, hselected⟩
      exact ⟨hselected, rfl⟩
  · rename_i hnode
    refine iff_of_false (by simp) ?_
    rintro ⟨rfl, _⟩
    exact hnode _ _ rfl

namespace Disk

variable {disk other : Disk} {root : Place} {names : List Name} {selection : Selection}
  {sources : List Source}

/-- Once the ignore files are read, the selected files are sorted. -/
theorem sources_of_ignoreFiles {ignoring : List IgnoreFile}
    (h : disk.ignoreFiles root selection.nestedIgnore = .ok ignoring) :
    disk.sources root selection =
      .ok (((disk.below root).filterMap (selection.source? ignoring)).mergeSort Source.le) := by
  rw [sources, h]
  show Except.ok _ = _
  congr 3
  funext ⟨names, node⟩
  cases node with
  | file content => rfl
  | link target => rfl
  | directory => rfl

/-- The sources found are the admitted files below the root, sorted. -/
theorem exists_of_sources_eq_ok (h : disk.sources root selection = .ok sources) :
    ∃ ignoring, disk.ignoreFiles root selection.nestedIgnore = .ok ignoring ∧
      sources = ((disk.below root).filterMap (selection.source? ignoring)).mergeSort Source.le := by
  obtain ⟨ignoring, hignoring, _⟩ := exists_of_bind_eq_ok h
  rw [sources_of_ignoreFiles hignoring] at h
  exact ⟨ignoring, hignoring, (Except.ok.inj h).symm⟩

/-- Sources that are found in order are the sources. -/
theorem sources_eq_ok {ignoring : List IgnoreFile}
    (hignoring : disk.ignoreFiles root selection.nestedIgnore = .ok ignoring)
    (hfound : (disk.below root).filterMap (selection.source? ignoring) = sources)
    (hsorted : sources.Pairwise fun first second => Source.le first second = true) :
    disk.sources root selection = .ok sources := by
  rw [sources_of_ignoreFiles hignoring, hfound, List.mergeSort_of_pairwise hsorted]

/-- The sources are the files below the root that are selected. -/
theorem mem_sources (h : disk.sources root selection = .ok sources) {ignoring : List IgnoreFile}
    (hignoring : disk.ignoreFiles root selection.nestedIgnore = .ok ignoring) {source : Source} :
    source ∈ sources ↔ (source.names, .file source.content) ∈ disk.below root ∧
      selection.hasExtension source.names = true ∧
      selection.admits ignoring source.names = true := by
  obtain ⟨found, hfound, rfl⟩ := exists_of_sources_eq_ok h
  rw [hignoring] at hfound
  cases hfound
  simp only [List.mem_mergeSort, List.mem_filterMap, Selection.source?_eq_some_iff]
  constructor
  · rintro ⟨entry, hmem, rfl, hselected⟩
    exact ⟨hmem, hselected⟩
  · rintro ⟨hmem, hselected⟩
    exact ⟨_, hmem, rfl, hselected⟩

/-- Every source is a file below the root. -/
theorem mem_below_of_mem_sources (h : disk.sources root selection = .ok sources) {source : Source}
    (hsource : source ∈ sources) : (source.names, .file source.content) ∈ disk.below root := by
  obtain ⟨ignoring, hignoring, _⟩ := exists_of_sources_eq_ok h
  exact ((mem_sources h hignoring).mp hsource).1

/-- No source is found twice. -/
theorem nodup_sources (h : disk.sources root selection = .ok sources) : sources.Nodup := by
  obtain ⟨ignoring, _, rfl⟩ := exists_of_sources_eq_ok h
  rw [(List.mergeSort_perm _ _).nodup_iff]
  have hpick : ∀ {entry source}, selection.source? ignoring entry = some source →
      source.names = entry.1 := by
    intro entry source hsource
    rw [(Selection.source?_eq_some_iff.mp hsource).1]
  exact (nodup_filterMap_below disk root hpick).of_map

/-- The paths of the sources are strictly ascending. -/
theorem WellNamed.ascending_sources (h : disk.WellNamed)
    (hsources : disk.sources root selection = .ok sources) :
    (sources.map Source.path).Pairwise Text.Before := by
  obtain ⟨ignoring, _, rfl⟩ := exists_of_sources_eq_ok hsources
  have hpick : ∀ {entry source}, selection.source? ignoring entry = some source →
      source.names = entry.1 ∧ ∃ content, entry.2 = .file content := by
    intro entry source hsource
    obtain ⟨rfl, _⟩ := Selection.source?_eq_some_iff.mp hsource
    exact ⟨rfl, source.content, rfl⟩
  exact h.ascending root hpick

/-- On disks that differ in a file that is no ignore file, the other sources are the same. -/
theorem DiffersAt.filter_sources_eq (h : disk.DiffersAt other (root ++ names))
    (hfree : disk.NoIgnoreFile root names) (hnamed : disk.WellNamed)
    (hsources : disk.sources root selection = .ok sources) {others : List Source}
    (hothers : other.sources root selection = .ok others) :
    sources.filter (fun source => source.path ≠ joinNames names) =
      others.filter (fun source => source.path ≠ joinNames names) := by
  obtain ⟨ignoring, hignoring, _⟩ := exists_of_sources_eq_ok hsources
  have hignoring' := hignoring
  rw [h.ignoreFiles_eq hfree hnamed] at hignoring'
  have hascending := hnamed.ascending_sources hsources
  have hascending' := (h.wellNamed hnamed).ascending_sources hothers
  refine Text.eq_of_ascending (hascending.sublist (List.filter_sublist.map _))
    (hascending'.sublist (List.filter_sublist.map _)) ?_
  intro source
  simp only [List.mem_filter, mem_sources hsources hignoring, mem_sources hothers hignoring']
  refine and_congr_left fun hpath => and_congr_left fun _ => h.mem_below_iff ?_
  intro heq
  simp [Source.path, heq] at hpath

end Disk

end StoryCatalog
