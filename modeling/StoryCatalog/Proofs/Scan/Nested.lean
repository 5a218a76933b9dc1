import StoryCatalog.Proofs.Scan.Listing

/-!
# Ignore files below the root

When ignore files below the root count, too, a scan finds no more than before, as long as the ignore
file of the root counts both times. It does not when it is a link: such a link is followed as long
as it alone counts, and passed over with all other links as soon as the ones below count. The
sources that are then found in addition are those that the rules behind the link ignore
(`sources_nested`).
-/

namespace StoryCatalog

/-! ## Fewer ignore files -/

namespace Selection

variable {selection : Selection} {ignoring fewer : List IgnoreFile} {names : List Name}

/-- What is admitted with some ignore files is admitted with fewer of them. -/
theorem admits_of_subset (hsubset : fewer ⊆ ignoring)
    (h : selection.admits ignoring names = true) : selection.admits fewer names = true := by
  simp only [admits, Bool.and_eq_true, Bool.not_eq_true', List.any_eq_false] at h ⊢
  obtain ⟨⟨⟨hout, hignored⟩, hincluded⟩, hexcluded⟩ := h
  exact ⟨⟨⟨hout, fun file hfile => hignored file (hsubset hfile)⟩, hincluded⟩, hexcluded⟩

/-- The ignore file of the root sees the whole path. -/
theorem admits_root_iff {rules : List IgnoreRule} :
    selection.admits [⟨[], rules⟩] names = true ↔
      selection.admits [] names = true ∧ rulesIgnore rules (joinNames names) = false := by
  have hignores : IgnoreFile.ignores ⟨[], rules⟩ names = rulesIgnore rules (joinNames names) := rfl
  simp only [admits, List.any_cons, List.any_nil, Bool.or_false, hignores, Bool.and_eq_true,
    Bool.not_eq_true', Bool.not_false, and_true]
  tauto

end Selection

namespace Disk

variable {disk : Disk} {root : Place} {selection : Selection} {ignoring : List IgnoreFile}
  {found : List Source}

/-! ## The ignore file of the root -/

/-- The ignore file of the root is a link to a file with this content. -/
def LinkedIgnoreFile (disk : Disk) (root : Place) (content : Bytes) : Prop :=
  (∃ target, disk.get? (root ++ [ignoreFileName]) = some (.link target)) ∧
    disk.content? (root.path.child ignoreFileName) = some content

/-- Each ignore file that counts has been read. -/
theorem exists_rules_of_mem {nested : Bool} (h : disk.ignoreFiles root nested = .ok ignoring)
    {folder : List Name} {content : Bytes}
    (hmem : (folder, content) ∈ disk.ignoreContents root nested) :
    ∃ rules, ignoreRules content = .ok rules ∧ ⟨folder, rules⟩ ∈ ignoring := by
  obtain ⟨file, hfile, hread⟩ := exists_of_forall₂_of_mem (forall₂_of_mapM_eq_ok h).flip hmem
  obtain ⟨rules, hrules, hfileEq⟩ := exists_of_bind_eq_ok hread
  cases hfileEq
  exact ⟨rules, hrules, hfile⟩

/-- The one ignore file that counts when those below the root do not. -/
theorem ignoreFiles_plain (disk : Disk) (root : Place) :
    disk.ignoreFiles root false =
      match disk.content? (root.path.child ignoreFileName) with
      | some content => (ignoreRules content).map fun rules => [⟨[], rules⟩]
      | none => .ok [] := by
  rw [ignoreFiles, ignoreContents, if_neg Bool.false_ne_true]
  cases disk.content? (root.path.child ignoreFileName) with
  | none => rfl
  | some content =>
      rw [List.mapM_cons, List.mapM_nil]
      dsimp only
      cases ignoreRules content with
      | error fault => rfl
      | ok rules => rfl

/-- Unless it is a link, the ignore file of the root is read where it stands. -/
theorem Rooted.content?_ignoreFile (h : disk.Rooted) (hroot : disk.get? root = some .directory)
    (hlink : ∀ target, disk.get? (root ++ [ignoreFileName]) ≠ some (.link target))
    {content : Bytes} :
    disk.content? (root.path.child ignoreFileName) = some content ↔
      disk.get? (root ++ [ignoreFileName]) = some (.file content) :=
  content?_eq_some_iff (locate_child (locate_path (h.direct hroot (by simp))
    (h.above_notMem hroot)) hroot (by decide) hlink)

/-! ## What is found -/

/-- Ignore files that all count when those below the root do let as much be found. -/
theorem exists_sources_superset {fewer : List IgnoreFile}
    (hfound : disk.sources root { selection with nestedIgnore := true } = .ok found)
    (hignoring : disk.ignoreFiles root true = .ok ignoring)
    (hfewer : disk.ignoreFiles root false = .ok fewer) (hsubset : fewer ⊆ ignoring) :
    ∃ plain, disk.sources root { selection with nestedIgnore := false } = .ok plain ∧
      found ⊆ plain := by
  have hplain : disk.sources root { selection with nestedIgnore := false } = .ok _ :=
    sources_of_ignoreFiles hfewer
  refine ⟨_, hplain, fun source hsource => ?_⟩
  obtain ⟨hbelow, hextension, hadmits⟩ := (mem_sources hfound hignoring).mp hsource
  exact (mem_sources hplain hfewer).mpr
    ⟨hbelow, hextension, Selection.admits_of_subset hsubset hadmits⟩

/-- Whatever ignore files and links a repository holds: as long as the ignore file of the root is no
link to a file, a scan with the ignore files below the root finds nothing that a scan without them
does not find. When it is such a link, a scan without the ones below stops if the content behind the
link has a fault, and otherwise it finds those of the sources that the rules in this content do not
ignore. -/
theorem sources_nested (disk : Disk) (root : Place) (selection : Selection)
    (hrooted : disk.Rooted) (hroot : disk.get? root = some .directory) {found : List Source}
    (hfound : disk.sources root { selection with nestedIgnore := true } = .ok found) :
    ((∀ content, ¬disk.LinkedIgnoreFile root content) →
      ∃ plain, disk.sources root { selection with nestedIgnore := false } = .ok plain ∧
        found ⊆ plain) ∧
    ∀ content, disk.LinkedIgnoreFile root content →
      (∀ fault, ignoreRules content = .error fault →
        disk.sources root { selection with nestedIgnore := false } = .error fault) ∧
      ∀ rules, ignoreRules content = .ok rules →
        ∃ plain, disk.sources root { selection with nestedIgnore := false } = .ok plain ∧
          ∀ source ∈ found, source ∈ plain ↔ rulesIgnore rules source.path = false := by
  obtain ⟨ignoring, hignoring, -⟩ := exists_of_sources_eq_ok hfound
  have hread := ignoreFiles_plain disk root
  refine ⟨?_, ?_⟩
  · intro hunlinked
    cases hcontent : disk.content? (root.path.child ignoreFileName) with
    | none =>
        rw [hcontent] at hread
        exact exists_sources_superset hfound hignoring hread (List.nil_subset ignoring)
    | some content =>
        -- the ignore file of the root is a file, so it counts with the ones below, too
        have hlink : ∀ target, disk.get? (root ++ [ignoreFileName]) ≠ some (.link target) :=
          fun target hget => hunlinked content ⟨⟨target, hget⟩, hcontent⟩
        have hfile := (hrooted.content?_ignoreFile hroot hlink).mp hcontent
        have hcounts : ([], content) ∈ disk.ignoreContents root true :=
          mem_ignoreContents_nested.mpr (mem_below.mpr ⟨by simp, hfile⟩)
        obtain ⟨rules, hrules, hmem⟩ := exists_rules_of_mem hignoring hcounts
        rw [hcontent] at hread
        dsimp only at hread
        rw [hrules] at hread
        exact exists_sources_superset hfound hignoring hread (by simpa using hmem)
  · rintro content ⟨_, hcontent⟩
    rw [hcontent] at hread
    dsimp only at hread
    refine ⟨?_, ?_⟩
    · intro fault hfault
      rw [hfault] at hread
      rw [sources, hread]
      rfl
    · intro rules hrules
      rw [hrules] at hread
      have hplain : disk.sources root { selection with nestedIgnore := false } = .ok _ :=
        sources_of_ignoreFiles hread
      refine ⟨_, hplain, fun source hsource => ?_⟩
      obtain ⟨hbelow, hextension, hadmits⟩ := (mem_sources hfound hignoring).mp hsource
      have hnone := Selection.admits_of_subset (List.nil_subset ignoring) hadmits
      rw [mem_sources hplain hread, Selection.admits_root_iff]
      exact ⟨fun h => h.2.2.2, fun h => ⟨hbelow, hextension, hnone, h⟩⟩

end Disk

/-- The lower ignore file only takes sources away from those that a scan without it finds. -/
theorem NestedRules.sources_subset_plain :
    disk.Rooted ∧ disk.get? root = some .directory ∧
      (∀ content, ¬disk.LinkedIgnoreFile root content) ∧
      disk.sources root { selection with nestedIgnore := true } =
        .ok [⟨["a.js"], []⟩, ⟨["src", "c.JS"], []⟩] ∧
      ∃ plain, disk.sources root { selection with nestedIgnore := false } = .ok plain ∧
        [⟨["a.js"], []⟩, ⟨["src", "c.JS"], []⟩] ⊆ plain := by
  have hunlinked : ∀ content, ¬disk.LinkedIgnoreFile root content := by
    rintro content ⟨⟨target, hget⟩, -⟩
    cases hget
  exact ⟨rooted, rfl, hunlinked, sources_eq,
    (Disk.sources_nested disk root selection rooted rfl sources_eq).1 hunlinked⟩

/-! A repository whose ignore file is a link to the rules. -/

namespace LinkedRules

def root : Place := ["repo"]

def disk : Disk where
  entries :=
    [(["repo"], .directory), (["repo", ignoreFileName], .link "rules"),
      (["repo", "a.js"], .file []), (["repo", "b.js"], .file []),
      (["repo", "rules"], .file (Text.utf8 "a.js\n"))]
  distinct := by decide

def selection (nested : Bool) : Selection := ⟨[".js"], [], [], [], nested⟩

/-- The ignored source is found as soon as the ignore files below the root count, too. -/
theorem sources_nested_not_subset :
    disk.sources root (selection true) = .ok [⟨["a.js"], []⟩, ⟨["b.js"], []⟩] ∧
      disk.sources root (selection false) = .ok [⟨["b.js"], []⟩] := by
  have hrules : ignoreRules (Text.utf8 "a.js\n") = .ok [NestedRules.rule false "a.js"] :=
    ignoreRules_utf8 "a.js\n"
  have hplain : disk.ignoreFiles root false =
      .ok [⟨[], [NestedRules.rule false "a.js"]⟩] := by
    have hcontent : disk.content? (root.path.child ignoreFileName) =
        some (Text.utf8 "a.js\n") := rfl
    rw [Disk.ignoreFiles_plain, hcontent]
    dsimp only
    rw [hrules]
    rfl
  have hnested : disk.ignoreFiles root true = .ok [] := by
    have hcontents : disk.ignoreContents root true = [] := by
      rw [Disk.ignoreContents, if_pos rfl]
      exact List.mergeSort_of_pairwise (by decide)
    rw [Disk.ignoreFiles, hcontents]
    rfl
  exact ⟨Disk.sources_eq_ok hnested (by decide +kernel) (by decide),
    Disk.sources_eq_ok hplain (by decide +kernel) (by decide)⟩

end LinkedRules

end StoryCatalog
