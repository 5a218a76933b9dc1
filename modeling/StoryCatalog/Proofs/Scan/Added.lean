import Mathlib.Data.List.Perm.Subperm
import StoryCatalog.Proofs.Disk.Growth
import StoryCatalog.Proofs.Scan.Sources

/-!
# Scanning a disk that has grown

What is added to a disk changes neither its ignore files nor its settings, unless it bears their
names or a link to them was left hanging (`Adds.content?_eq`). A later scan that leaves nothing out
finds the earlier sources again, and it finds the same ones exactly when each of its sources was
there before and was not left out then (`Adds.sources_eq_iff`).
-/

namespace StoryCatalog

namespace Disk

variable {disk changed : Disk} {added : List (Place × Node)} {root : Place} {name : Name}

/-- A name in the root is firm: its path leads to something, or straight to the free place of that
name. So no link hangs there. -/
def Firm (disk : Disk) (root : Place) (name : Name) : Prop :=
  ∃ place, disk.locate (root.path.child name) = .ok place ∧
    (disk.get? place = none → place = root ++ [name])

/-- No file with this name is added. -/
def NoFileNamed (added : List (Place × Node)) (name : Name) : Prop :=
  ∀ place content, (place, Node.file content) ∈ added → place.getLast? ≠ some name

theorem noFileNamed_of_directories (h : ∀ entry ∈ added, entry.2 = Node.directory) (name : Name) :
    NoFileNamed added name := by
  intro place content hmem
  cases h _ hmem

/-- What a firm name leads to is read as before. -/
theorem Adds.content?_eq (h : disk.Adds added changed) (hfirm : disk.Firm root name)
    (hadded : NoFileNamed added name) :
    changed.content? (root.path.child name) = disk.content? (root.path.child name) := by
  obtain ⟨place, hlocate, hplace⟩ := hfirm
  refine Option.ext fun content => ?_
  rw [content?_eq_some_iff (h.locate_eq hlocate), content?_eq_some_iff hlocate]
  refine ⟨fun hget => ?_, h.get?_of_some⟩
  rcases h.get?_eq_some_iff.mp hget with hget | ⟨_, hmem⟩
  · exact hget
  · cases hnode : disk.get? place with
    | none =>
        have hlast := hadded place content hmem
        rw [hplace hnode, List.getLast?_concat] at hlast
        exact absurd rfl hlast
    | some node => rw [← hget, h.get?_of_some hnode]

/-- Adding no ignore file leaves the contents of the ignore files as they were. -/
theorem Adds.ignoreContents_eq (h : disk.Adds added changed)
    (hfirm : disk.Firm root ignoreFileName) (hadded : NoFileNamed added ignoreFileName)
    (nested : Bool) : changed.ignoreContents root nested = disk.ignoreContents root nested := by
  cases nested with
  | true =>
      rw [ignoreContents, if_pos rfl, ignoreContents, if_pos rfl, h.below_eq,
        List.filterMap_append]
      dsimp only
      congr 1
      rw [List.append_right_eq_self, List.filterMap_eq_nil_iff]
      rintro ⟨names, node⟩ hmem
      obtain ⟨hne, hmem⟩ := mem_filterMap_belowEntry.mp hmem
      cases node with
      | link target => rfl
      | directory => rfl
      | file content =>
          refine if_neg ?_
          have hlast := hadded _ content hmem
          rwa [List.getLast?_append_of_ne_nil _ hne] at hlast
  | false =>
      rw [ignoreContents, if_neg Bool.false_ne_true, ignoreContents, if_neg Bool.false_ne_true,
        h.content?_eq hfirm hadded]

/-- Adding no ignore file leaves the compiled rules as they were. -/
theorem Adds.ignoreFiles_eq (h : disk.Adds added changed) (hfirm : disk.Firm root ignoreFileName)
    (hadded : NoFileNamed added ignoreFileName) (nested : Bool) :
    changed.ignoreFiles root nested = disk.ignoreFiles root nested := by
  rw [ignoreFiles, ignoreFiles, h.ignoreContents_eq hfirm hadded]

/-! ## Sources -/

variable {selection : Selection}

/-- Nothing is found when no file with a wanted suffix is added. -/
theorem Adds.sources_eq_of_unselected (h : disk.Adds added changed)
    (hadded : ∀ names content, names ≠ [] → (root ++ names, Node.file content) ∈ added →
      selection.hasExtension names = false)
    (hignoring : changed.ignoreFiles root selection.nestedIgnore =
      disk.ignoreFiles root selection.nestedIgnore) :
    changed.sources root selection = disk.sources root selection := by
  have hnone : ∀ ignoring, (added.filterMap (belowEntry root)).filterMap
      (selection.source? ignoring) = [] := by
    intro ignoring
    rw [List.filterMap_eq_nil_iff]
    rintro ⟨names, node⟩ hmem
    rw [Option.eq_none_iff_forall_ne_some]
    intro source hsource
    obtain ⟨⟨⟩, hextension, _⟩ := Selection.source?_eq_some_iff.mp hsource
    obtain ⟨hne, hmem⟩ := mem_filterMap_belowEntry.mp hmem
    rw [hadded _ _ hne hmem] at hextension
    cases hextension
  cases hfiles : disk.ignoreFiles root selection.nestedIgnore with
  | error fault =>
      rw [hfiles] at hignoring
      rw [sources, hignoring, sources, hfiles]
      rfl
  | ok ignoring =>
      rw [hfiles] at hignoring
      rw [sources_of_ignoreFiles hignoring, sources_of_ignoreFiles hfiles, h.below_eq,
        List.filterMap_append, hnone, List.append_nil]

end Disk

/-- A selection with an output name leaves out what lies below this name, too. -/
theorem Selection.admits_outputName {selection : Selection} (hname : selection.outputName = [])
    (out : Name) (ignoring : List IgnoreFile) (names : List Name) :
    { selection with outputName := out }.admits ignoring names = true ↔
      (out = [] ∨ names.head? ≠ some out) ∧ selection.admits ignoring names = true := by
  simp [admits, hname, and_assoc]

theorem Selection.source?_outputName {selection : Selection} (hname : selection.outputName = [])
    {out : Name} {ignoring : List IgnoreFile} {entry : List Name × Node} {source : Source}
    (h : { selection with outputName := out }.source? ignoring entry = some source) :
    selection.source? ignoring entry = some source := by
  obtain ⟨hentry, hextension, hadmits⟩ := source?_eq_some_iff.mp h
  exact source?_eq_some_iff.mpr
    ⟨hentry, hextension, ((admits_outputName hname out ignoring _).mp hadmits).2⟩

namespace Disk

variable {disk changed : Disk} {added : List (Place × Node)} {root : Place}
  {selection : Selection} {ignoring : List IgnoreFile} {out : Name} {sources others : List Source}

section

variable (h : disk.Adds added changed) (hname : selection.outputName = [])
  (hignoring : disk.ignoreFiles root selection.nestedIgnore = .ok ignoring)
  (hignoring' : changed.ignoreFiles root selection.nestedIgnore = .ok ignoring)
  (hsources : disk.sources root { selection with outputName := out } = .ok sources)
  (hothers : changed.sources root selection = .ok others)

include h hname in
/-- The sources that were found with an output name are found again without one. -/
theorem Adds.found_sublist :
    ((disk.below root).filterMap ({ selection with outputName := out }.source? ignoring)).Sublist
      ((changed.below root).filterMap (selection.source? ignoring)) := by
  rw [h.below_eq, List.filterMap_append]
  exact (filterMap_sublist_filterMap (Selection.source?_outputName hname) _).trans
    (List.sublist_append_left _ _)

include h hname hignoring hignoring' hsources hothers in
/-- Sources in the same number are the same sources. -/
theorem Adds.sources_eq_of_length_le (hlength : others.length ≤ sources.length) :
    others = sources := by
  have hfound : sources = ((disk.below root).filterMap
      ({ selection with outputName := out }.source? ignoring)).mergeSort Source.le :=
    Except.ok.inj (hsources.symm.trans (sources_of_ignoreFiles hignoring))
  have hfound' : others =
      ((changed.below root).filterMap (selection.source? ignoring)).mergeSort Source.le :=
    Except.ok.inj (hothers.symm.trans (sources_of_ignoreFiles hignoring'))
  rw [hfound, hfound', List.length_mergeSort, List.length_mergeSort] at hlength
  rw [hfound, hfound', (h.found_sublist hname).eq_of_length_le hlength]

include h hname hignoring hignoring' hsources hothers in
/-- A scan that leaves nothing out finds the earlier sources exactly when each of its sources was
there before and does not lie below the name that was left out. -/
theorem Adds.sources_eq_iff :
    others = sources ↔ ∀ source ∈ others,
      disk.get? (root ++ source.names) = some (.file source.content) ∧
        (out = [] ∨ source.names.head? ≠ some out) := by
  constructor
  · rintro rfl source hsource
    obtain ⟨hbelow, _, hadmits⟩ := (mem_sources hsources hignoring).mp hsource
    exact ⟨(mem_below.mp hbelow).2,
      ((Selection.admits_outputName hname out ignoring _).mp hadmits).1⟩
  · intro hall
    refine h.sources_eq_of_length_le hname hignoring hignoring' hsources hothers ?_
    refine ((nodup_sources hothers).subperm ?_).length_le
    intro source hsource
    obtain ⟨hbefore, hout⟩ := hall source hsource
    obtain ⟨hbelow, hextension, hadmits⟩ := (mem_sources hothers hignoring').mp hsource
    exact (mem_sources hsources hignoring).mpr ⟨mem_below.mpr ⟨(mem_below.mp hbelow).1, hbefore⟩,
      hextension, (Selection.admits_outputName hname out ignoring _).mpr ⟨hout, hadmits⟩⟩

end

end Disk

end StoryCatalog
