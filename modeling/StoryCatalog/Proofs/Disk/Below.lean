import Mathlib.Data.List.Nodup
import StoryCatalog.Proofs.Disk.Write

/-!
# What stands below a place

The nodes below a place are those that the disk has there (`mem_below`), each under names of its own
(`nodup_below`). Files below a place are there before directories are made
(`mem_below_makeDirectories`).
-/

namespace StoryCatalog

/-- The names that lead from a place to one below it. -/
theorem Place.below?_path (root : Place) (names : List Name) :
    (Place.path (root ++ names)).below? root.path = some names := by
  simp only [Path.below?, Place.path, if_true]
  exact List.isPrefixOf?_eq_some_iff_append_eq.mpr rfl

namespace Disk

variable {disk : Disk} {root place : Place} {names : List Name} {node : Node}

theorem get?_eq_some_iff (hplace : place ≠ []) :
    disk.get? place = some node ↔ (place, node) ∈ disk.entries := by
  rw [get?, if_neg (by simpa using hplace), lookup_eq_some_iff disk.distinct]

/-- What an entry is from a place that it lies below. -/
def belowEntry (root : Place) (entry : Place × Node) : Option (List Name × Node) :=
  match root.isPrefixOf? entry.1 with
  | some [] | none => none
  | some names => some (names, entry.2)

theorem below_eq (disk : Disk) (root : Place) :
    disk.below root = disk.entries.filterMap (belowEntry root) :=
  rfl

theorem belowEntry_eq_some_iff {entry : Place × Node} :
    belowEntry root entry = some (names, node) ↔ names ≠ [] ∧ entry = (root ++ names, node) := by
  obtain ⟨other, found⟩ := entry
  unfold belowEntry
  constructor
  · intro h
    split at h
    · cases h
    · cases h
    · rename_i rest hne hrest
      cases h
      rw [List.isPrefixOf?_eq_some_iff_append_eq] at hrest
      exact ⟨hne, by rw [hrest]⟩
  · rintro ⟨hne, ⟨⟩⟩
    have hrest : root.isPrefixOf? (root ++ names) = some names :=
      List.isPrefixOf?_eq_some_iff_append_eq.mpr rfl
    dsimp only
    rw [hrest]
    split
    · rename_i heq
      exact absurd (Option.some.inj heq) hne
    · rename_i heq
      cases heq
    · rename_i heq
      rw [Option.some.inj heq]

theorem mem_filterMap_belowEntry {entries : List (Place × Node)} :
    (names, node) ∈ entries.filterMap (belowEntry root) ↔
      names ≠ [] ∧ (root ++ names, node) ∈ entries := by
  simp only [List.mem_filterMap, belowEntry_eq_some_iff]
  constructor
  · rintro ⟨entry, hentry, hne, rfl⟩
    exact ⟨hne, hentry⟩
  · rintro ⟨hne, hentry⟩
    exact ⟨_, hentry, hne, rfl⟩

/-- What is listed below a place is what stands there under at least one name. -/
theorem mem_below :
    (names, node) ∈ disk.below root ↔ names ≠ [] ∧ disk.get? (root ++ names) = some node := by
  rw [below_eq, mem_filterMap_belowEntry]
  refine and_congr_right fun hne => ?_
  rw [get?_eq_some_iff (by simp [hne])]

/-- No names lead to two nodes below a place. -/
theorem nodup_below (disk : Disk) (root : Place) : ((disk.below root).map Prod.fst).Nodup := by
  have hsublist : ((disk.below root).map fun entry => root ++ entry.1).Sublist
      (disk.entries.map Prod.fst) := by
    refine map_filterMap_sublist ?_ disk.entries
    rintro entry ⟨names, node⟩ h
    obtain ⟨_, rfl⟩ := belowEntry_eq_some_iff.mp h
    rfl
  refine List.Nodup.of_map (fun names => root ++ names) ?_
  rw [List.map_map]
  exact hsublist.nodup disk.distinct

/-- Making directories makes no files. -/
theorem get?_of_makeDirectories {path : Path} {made : Disk} {content : Bytes}
    (h : disk.makeDirectories path = .ok made) (hget : made.get? place = some (.file content)) :
    disk.get? place = some (.file content) := by
  have hplace : place ≠ [] := by
    rintro rfl
    cases hget
  rw [get?_eq_some_iff hplace] at hget ⊢
  exact (addsDirectories_makeDirectories h).mem_of_file hget

/-- Making directories brings no file into a listing. -/
theorem mem_below_makeDirectories {path : Path} {made : Disk} {content : Bytes}
    (h : disk.makeDirectories path = .ok made) (hmem : (names, .file content) ∈ made.below root) :
    (names, .file content) ∈ disk.below root := by
  obtain ⟨hne, hget⟩ := mem_below.mp hmem
  exact mem_below.mpr ⟨hne, get?_of_makeDirectories h hget⟩

end Disk

end StoryCatalog
