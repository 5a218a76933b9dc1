import StoryCatalog.Proofs.Disk.Rooted
import StoryCatalog.Proofs.Scan.Sources
import StoryCatalog.Proofs.Text.Utf8

/-!
# The order in which a disk is listed

A scan lists what stands below the root twice, for its ignore files and for its sources. In
whichever orders that happens, it finds the same sources, in strictly ascending order of their
paths, and they are exactly the files that pass every check (`sources_of_listings`). `Disk.Admits`
states these checks of a path alone, links included.
-/

namespace StoryCatalog

/-- The rules of an ignore file that was written as text. -/
theorem ignoreRules_utf8 (t : String) :
    ignoreRules (Text.utf8 t) =
      ((Text.ofString t).unifyLineEnds.lines.mapM IgnoreRule.ofLine).map List.reduceOption := by
  rw [ignoreRules, readText, Utf8.decode_utf8 (Text.isScalar_ofString t)]
  cases h : (Text.ofString t).unifyLineEnds.lines.mapM IgnoreRule.ofLine with
  | error fault => simp only [bind, Except.bind, pure, Except.pure, h, Except.map]
  | ok rules => simp only [bind, Except.bind, pure, Except.pure, h, Except.map]

namespace Disk

variable {disk other : Disk} {root : Place} {names : List Name} {selection : Selection}
  {ignoring : List IgnoreFile}

/-- A rooted disk has no name with a separator. -/
theorem Rooted.wellNamed (h : disk.Rooted) : disk.WellNamed :=
  fun _ _ hget name hname => (h.named hget name hname).2

/-! ## Two listings -/

/-- The sources when the ignore files are found in the order of one disk, and the files in that of
another one. -/
def sourcesListedBy (disk listing : Disk) (root : Place) (selection : Selection) :
    Except IgnoreFault (List Source) :=
  (disk.ignoreFiles root selection.nestedIgnore).map fun ignoring =>
    ((listing.below root).filterMap (selection.source? ignoring)).mergeSort Source.le

/-- A scan lists the same disk twice. -/
theorem sourcesListedBy_self (disk : Disk) (root : Place) (selection : Selection) :
    disk.sourcesListedBy disk root selection = disk.sources root selection := by
  rw [sourcesListedBy]
  cases hignoring : disk.ignoreFiles root selection.nestedIgnore with
  | error fault =>
      rw [sources, hignoring]
      rfl
  | ok ignoring =>
      rw [sources_of_ignoreFiles hignoring]
      rfl

/-- The ignore rules do not depend on the order in which the entries are listed. -/
theorem ignoreFiles_of_perm (hnamed : disk.WellNamed) (hother : other.WellNamed)
    (h : disk.entries.Perm other.entries) (nested : Bool) :
    disk.ignoreFiles root nested = other.ignoreFiles root nested := by
  have hcontents : disk.ignoreContents root nested = other.ignoreContents root nested := by
    cases nested with
    | true =>
        refine Text.eq_of_ascending (hnamed.ascending_ignoreContents root)
          (hother.ascending_ignoreContents root) ?_
        rintro ⟨folder, content⟩
        rw [mem_ignoreContents_nested, mem_ignoreContents_nested, (below_of_perm h root).mem_iff]
    | false =>
        rw [ignoreContents, if_neg Bool.false_ne_true, ignoreContents, if_neg Bool.false_ne_true,
          content?_of_perm h]
  rw [ignoreFiles, ignoreFiles, hcontents]

/-- The files that are picked come out of the sort in the same order, however they were listed. -/
theorem sort_of_perm (hnamed : disk.WellNamed) (hother : other.WellNamed)
    (h : disk.entries.Perm other.entries) (root : Place) :
    ((disk.below root).filterMap (selection.source? ignoring)).mergeSort Source.le =
      ((other.below root).filterMap (selection.source? ignoring)).mergeSort Source.le := by
  have hpick : ∀ {entry source}, selection.source? ignoring entry = some source →
      source.names = entry.1 ∧ ∃ content, entry.2 = .file content := by
    intro entry source hsource
    obtain ⟨rfl, _⟩ := Selection.source?_eq_some_iff.mp hsource
    exact ⟨rfl, source.content, rfl⟩
  refine Text.eq_of_ascending (hnamed.ascending root hpick) (hother.ascending root hpick) ?_
  intro source
  rw [List.mem_mergeSort, List.mem_mergeSort, ((below_of_perm h root).filterMap _).mem_iff]

/-! ## The checks of a path -/

/-- Names lead straight down from a place: none of them leads upwards, and no link stands above the
last one. -/
structure Straight (disk : Disk) (root : Place) (names : List Name) : Prop where
  nonempty : names ≠ []
  downwards : Name.above ∉ names
  not_link : ∀ {front}, front <+: names → front ≠ names →
    ∀ target, disk.get? (root ++ front) ≠ some (.link target)

/-- A path passes the checks: it leads to a file and does not end on a link, it is resolved to a
place inside the root, and its names are not left out. -/
structure Admits (disk : Disk) (root : Place) (selection : Selection)
    (ignoring : List IgnoreFile) (names : List Name) : Prop where
  file : ∃ content, disk.content? (Place.path (root ++ names)) = some content
  not_link : ¬disk.EndsOnLink (Place.path (root ++ names))
  inside : ∃ top reached, disk.resolve root.path = .ok top ∧
    disk.resolve (Place.path (root ++ names)) = .ok reached ∧ top <+: reached
  admitted : selection.admits ignoring names = true

/-- Straight names that do not end on a link meet no link at all. -/
theorem Straight.get?_ne_link (h : disk.Straight root names) (hrooted : disk.Rooted)
    (hroot : disk.get? root = some .directory)
    (hlast : ¬disk.EndsOnLink (Place.path (root ++ names))) {front : Place}
    (hfront : front <+: root ++ names) (target : Text) :
    disk.get? front ≠ some (.link target) := by
  intro hget
  rcases List.prefix_or_prefix_of_prefix hfront (List.prefix_append root names) with hup | hdown
  · -- up to the root there are directories only
    by_cases heq : front = root
    · rw [heq, hroot] at hget
      cases hget
    · rw [hrooted.directory_of_prefix hroot hup heq] at hget
      cases hget
  · obtain ⟨rest, rfl⟩ := hdown
    rw [List.prefix_append_right_inj] at hfront
    by_cases heq : rest = names
    · subst heq
      have hne : root ++ rest ≠ [] := by simp [h.nonempty]
      exact hlast ((hrooted.endsOnLink_iff hget hne).mpr ⟨target, rfl⟩)
    · exact h.not_link hfront heq target hget

/-- A file below the root is reached straight, and its path leads to it. -/
theorem Rooted.straight_of_file (h : disk.Rooted) {content : Bytes} (hne : names ≠ [])
    (hget : disk.get? (root ++ names) = some (.file content)) : disk.Straight root names where
  nonempty := hne
  downwards := fun hmem => h.above_notMem hget (List.mem_append_right root hmem)
  not_link := by
    intro front hfront hfrontNe target hlink
    have hprefix : root ++ front <+: root ++ names := (List.prefix_append_right_inj root).mpr hfront
    rw [h.directory_of_prefix hget hprefix (by simpa using hfrontNe)] at hlink
    cases hlink

/-- On a rooted disk, a file is scanned as soon as its own way is admitted. -/
theorem Rooted.admits_of_file (h : disk.Rooted) (hroot : disk.get? root = some .directory)
    {content : Bytes} (hne : names ≠ []) (hget : disk.get? (root ++ names) = some (.file content))
    (hadmits : selection.admits ignoring names = true) :
    disk.Admits root selection ignoring names where
  file := by
    have hlocate := locate_path (h.direct hget (by simp)) (h.above_notMem hget)
    exact ⟨content, (content?_eq_some_iff hlocate).mpr hget⟩
  not_link := by
    rw [h.endsOnLink_iff hget (by simp [hne])]
    rintro ⟨target, htarget⟩
    cases htarget
  inside :=
    ⟨root, root ++ names, (h.direct hroot (by simp)).resolve_path (h.above_notMem hroot) hroot,
      (h.direct hget (by simp)).resolve_path (h.above_notMem hget) hget,
      List.prefix_append root names⟩
  admitted := hadmits

/-- The sources are the straight paths with a wanted suffix that pass the checks. -/
theorem Rooted.mem_names_sources_iff (h : disk.Rooted) (hroot : disk.get? root = some .directory)
    {sources : List Source} (hsources : disk.sources root selection = .ok sources)
    (hignoring : disk.ignoreFiles root selection.nestedIgnore = .ok ignoring) :
    names ∈ sources.map Source.names ↔ disk.Straight root names ∧
      selection.hasExtension names = true ∧ disk.Admits root selection ignoring names := by
  rw [List.mem_map]
  constructor
  · rintro ⟨source, hsource, rfl⟩
    obtain ⟨hbelow, hextension, hadmits⟩ := (mem_sources hsources hignoring).mp hsource
    obtain ⟨hne, hget⟩ := mem_below.mp hbelow
    exact ⟨h.straight_of_file hne hget, hextension, h.admits_of_file hroot hne hget hadmits⟩
  · rintro ⟨hstraight, hextension, hadmits⟩
    obtain ⟨content, hcontent⟩ := hadmits.file
    have hdown : Name.above ∉ root ++ names := by
      rw [List.mem_append, not_or]
      exact ⟨h.above_notMem hroot, hstraight.downwards⟩
    have hget := get?_of_content?_path hdown
      (fun _ hfront => hstraight.get?_ne_link h hroot hadmits.not_link hfront) hcontent
    exact ⟨⟨names, content⟩, (mem_sources hsources hignoring).mpr
      ⟨mem_below.mpr ⟨hstraight.nonempty, hget⟩, hextension, hadmits.admitted⟩, rfl⟩

/-- Whatever the selection, a scan of a repository finds the same sources, or stops at the same
fault of an ignore file, in whichever two orders the disk is listed. When all ignore files can be
read, the paths of the sources are strictly ascending, and a path straight down from the root is
among them exactly when its suffix is wanted and it passes the checks. -/
theorem sources_of_listings (disk : Disk) (root : Place) (selection : Selection)
    (hrooted : disk.Rooted) (hroot : disk.get? root = some .directory) :
    (∀ first second : Disk, first.entries.Perm disk.entries → second.entries.Perm disk.entries →
      first.sourcesListedBy second root selection = disk.sources root selection) ∧
    ∀ ignoring, disk.ignoreFiles root selection.nestedIgnore = .ok ignoring →
      ∃ found, disk.sources root selection = .ok found ∧
        (found.map Source.path).Pairwise Text.Before ∧
        ∀ names, names ∈ found.map Source.names ↔ disk.Straight root names ∧
          selection.hasExtension names = true ∧ disk.Admits root selection ignoring names := by
  refine ⟨?_, ?_⟩
  · intro first second hfirst hsecond
    rw [← sourcesListedBy_self, sourcesListedBy, sourcesListedBy,
      ignoreFiles_of_perm (hrooted.of_perm hfirst).wellNamed hrooted.wellNamed hfirst]
    congr 1
    funext ignoring
    exact sort_of_perm (hrooted.of_perm hsecond).wellNamed hrooted.wellNamed hsecond root
  · intro ignoring hignoring
    have hsources := sources_of_ignoreFiles hignoring
    exact ⟨_, hsources, hrooted.wellNamed.ascending_sources hsources,
      fun names => hrooted.mem_names_sources_iff hroot hsources hignoring⟩

end Disk

/-! A repository with two ignore files, of which the lower one takes back what the upper one
ignores, and with a link to a source, listed from either end. -/

namespace NestedRules

def root : Place := ["repo"]

def entries : List (Place × Node) :=
  [(["repo"], .directory),
    (["repo", ignoreFileName], .file (Text.utf8 "b.js\n")),
    (["repo", "a.js"], .file []),
    (["repo", "src"], .directory),
    (["repo", "src", ignoreFileName], .file (Text.utf8 "a.js\n!b.js\n")),
    (["repo", "src", "a.js"], .file []),
    (["repo", "src", "b.js"], .file []),
    (["repo", "src", "c.JS"], .file []),
    (["repo", "src", "d.js"], .link "c.JS")]

def disk : Disk where
  entries := entries
  distinct := by decide

def reversed : Disk where
  entries := entries.reverse
  distinct := by decide

def selection : Selection := ⟨[".js"], [], [], [], true⟩

/-- The rule that names one file. -/
def rule (negated : Bool) (name : Name) : IgnoreRule :=
  ⟨negated, false, false, name.map fun c => .one (.single c)⟩

def ignoring : List IgnoreFile :=
  [⟨[], [rule false "b.js"]⟩, ⟨["src"], [rule false "a.js", rule true "b.js"]⟩]

theorem rooted : disk.Rooted :=
  Disk.rooted_of_entries (by decide)

theorem ignoreFiles_eq : disk.ignoreFiles root true = .ok ignoring := by
  let src : Name := "src"
  have hcontents : disk.ignoreContents root true =
      [([], Text.utf8 "b.js\n"), ([src], Text.utf8 "a.js\n!b.js\n")] := by
    rw [Disk.ignoreContents, if_pos rfl]
    exact List.mergeSort_of_pairwise (by decide)
  have hupper : ignoreRules (Text.utf8 "b.js\n") = .ok [rule false "b.js"] :=
    ignoreRules_utf8 "b.js\n"
  have hlower : ignoreRules (Text.utf8 "a.js\n!b.js\n") =
      .ok [rule false "a.js", rule true "b.js"] := ignoreRules_utf8 "a.js\n!b.js\n"
  rw [Disk.ignoreFiles, hcontents, List.mapM_cons, List.mapM_cons, List.mapM_nil]
  dsimp only
  rw [hupper, hlower]
  rfl

theorem sources_eq :
    disk.sources root selection = .ok [⟨["a.js"], []⟩, ⟨["src", "c.JS"], []⟩] :=
  Disk.sources_eq_ok ignoreFiles_eq (by decide +kernel) (by decide)

/-- Both listings, and any two of them together, find the same two sources. -/
theorem sources_reversed :
    disk.Rooted ∧ disk.get? root = some .directory ∧ reversed.entries.Perm disk.entries ∧
      disk.sources root selection = .ok [⟨["a.js"], []⟩, ⟨["src", "c.JS"], []⟩] ∧
      reversed.sourcesListedBy disk root selection = disk.sources root selection ∧
      disk.sourcesListedBy reversed root selection = disk.sources root selection := by
  have hreversed : reversed.entries.Perm disk.entries := List.reverse_perm entries
  have hlistings := (Disk.sources_of_listings disk root selection rooted rfl).1
  exact ⟨rooted, rfl, hreversed, sources_eq, hlistings reversed disk hreversed (List.Perm.refl _),
    hlistings disk reversed (List.Perm.refl _) hreversed⟩

end NestedRules

end StoryCatalog
