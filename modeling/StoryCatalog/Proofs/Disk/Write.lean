import StoryCatalog.Proofs.Disk.Follow
import StoryCatalog.Proofs.Pointwise

/-!
# Writing through a path

A file that was written is read back through the same path (`content?_write_self`). Every path that
led somewhere still leads there (`locate_write`), and what it leads to has changed only if it is the
place that was written to (`content?_write_of_ne`). Making directories adds nothing but directories
(`addsDirectories_makeDirectories`).
-/

namespace StoryCatalog

namespace Disk

variable {disk changed : Disk} {path : Path} {content : Bytes}

/-- A path is located at a place exactly when its names lead there. -/
theorem locate_eq_ok_iff {place : Place} :
    disk.locate path = .ok place ↔ disk.Leads linkLimit [] path.names place :=
  follow_eq_ok_iff

/-- A path with a name behind it leads to a directory. -/
theorem node?_of_locate_child {name : Name} {place : Place}
    (h : disk.locate (path.child name) = .ok place) : disk.node? path = some .directory := by
  obtain ⟨parent, hleads, hdirectory⟩ := (locate_eq_ok_iff.mp h).directory
  rw [node?, locate_eq_ok_iff.mpr hleads]
  exact hdirectory

/-- What a write does: it puts the file where the path leads, which is neither a directory nor a
link. -/
theorem write_cases (h : disk.write path content = .ok changed) :
    ∃ place, disk.locate path = .ok place ∧ disk.get? place ≠ some .directory ∧
      (∀ target, disk.get? place ≠ some (.link target)) ∧
      changed = disk.put place (.file content) := by
  obtain ⟨place, hplace, h⟩ := exists_of_bind_eq_ok h
  have hlink := ((locate_eq_ok_iff.mp hplace).direct direct_nil).not_link
  split at h
  · cases h
  · rename_i hdirectory
    cases h
    exact ⟨place, hplace, hdirectory, hlink, rfl⟩

/-- A path leads where it led before a write. -/
theorem locate_write (h : disk.write path content = .ok changed) {other : Path} {place : Place}
    (hother : disk.locate other = .ok place) : changed.locate other = .ok place := by
  obtain ⟨spot, _, hdirectory, hlink, rfl⟩ := write_cases h
  exact locate_eq_ok_iff.mpr ((locate_eq_ok_iff.mp hother).put hdirectory hlink content)

/-- The content of a located path is that of the file at its place. -/
theorem content?_eq_some_iff {place : Place} (h : disk.locate path = .ok place) :
    disk.content? path = some content ↔ disk.get? place = some (.file content) := by
  have hnode : disk.node? path = disk.get? place := by simp only [node?, h]
  rw [content?, hnode]
  split
  · rename_i found hfound
    simp [hfound]
  · rename_i hother
    refine iff_of_false (by simp) ?_
    exact hother content

/-- What was written is read back. -/
theorem content?_write_self (h : disk.write path content = .ok changed) :
    changed.content? path = some content := by
  obtain ⟨place, hplace, hdirectory, _, hput⟩ := write_cases h
  have hne : place ≠ [] := by
    rintro rfl
    exact hdirectory rfl
  rw [content?_eq_some_iff (locate_write h hplace), hput]
  exact get?_put_self hne _

/-- A write to one place leaves the content of another as it was. -/
theorem content?_write_of_ne (h : disk.write path content = .ok changed) {place spot : Place}
    (hspot : disk.locate path = .ok spot) {other : Path} (hother : disk.locate other = .ok place)
    (hne : place ≠ spot) {found : Bytes} (hfound : disk.content? other = some found) :
    changed.content? other = some found := by
  obtain ⟨_, hplace, _, _, hput⟩ := write_cases h
  rw [hspot] at hplace
  cases hplace
  rw [content?_eq_some_iff hother] at hfound
  rw [content?_eq_some_iff (locate_write h hother), hput, get?_put_of_ne hne]
  exact hfound

/-! ## Adding entries -/

/-- An entry for a place that had none is added after the others. -/
theorem setEntry_of_lookup_eq_none {place : Place} {entries : List (Place × Node)}
    (h : entries.lookup place = none) (node : Node) :
    setEntry place node entries = entries ++ [(place, node)] := by
  induction entries with
  | nil => rfl
  | cons entry rest ih =>
      rw [List.lookup_cons] at h
      split at h
      · cases h
      · rename_i hkey
        rw [beq_eq_false_iff_ne] at hkey
        rw [setEntry, if_neg (Ne.symm hkey), ih h, List.cons_append]

/-- What is put in a free place comes behind all other entries. -/
theorem entries_put_of_free {place : Place} (h : disk.get? place = none) (node : Node) :
    (disk.put place node).entries = disk.entries ++ [(place, node)] := by
  unfold get? at h
  split at h
  · cases h
  · exact setEntry_of_lookup_eq_none h node

/-- The changed disk has the entries of the disk and behind them these ones, which are no links. The
names of their places lead downwards. -/
structure Adds (disk : Disk) (added : List (Place × Node)) (changed : Disk) : Prop where
  entries : changed.entries = disk.entries ++ added
  notLink : ∀ entry ∈ added, ∀ target, entry.2 ≠ Node.link target
  downwards : ∀ entry ∈ added, Name.above ∉ entry.1

theorem Adds.refl (disk : Disk) : disk.Adds [] disk where
  entries := (List.append_nil _).symm
  notLink := by simp
  downwards := by simp

theorem Adds.trans {first second third : Disk} {added more : List (Place × Node)}
    (h : first.Adds added second) (h' : second.Adds more third) :
    first.Adds (added ++ more) third where
  entries := by rw [h'.entries, h.entries, List.append_assoc]
  notLink := fun entry hentry =>
    (List.mem_append.mp hentry).elim (h.notLink entry) (h'.notLink entry)
  downwards := fun entry hentry =>
    (List.mem_append.mp hentry).elim (h.downwards entry) (h'.downwards entry)

/-- Writing at a free place adds this entry and changes no other. -/
theorem adds_put {place : Place} (hfree : disk.get? place = none) (hplace : Name.above ∉ place)
    {node : Node} (hnode : ∀ target, node ≠ .link target) :
    disk.Adds [(place, node)] (disk.put place node) where
  entries := entries_put_of_free hfree node
  notLink := by simpa using hnode
  downwards := by simpa using hplace

/-- The changed disk has all entries of the disk, and behind them only directories. -/
def AddsDirectories (disk changed : Disk) : Prop :=
  ∃ folders, disk.Adds folders changed ∧ ∀ entry ∈ folders, entry.2 = Node.directory

theorem AddsDirectories.refl (disk : Disk) : disk.AddsDirectories disk :=
  ⟨[], .refl disk, by simp⟩

/-- Steps that each add directories only add directories only together. -/
theorem AddsDirectories.trans {first second third : Disk} (h : first.AddsDirectories second)
    (h' : second.AddsDirectories third) : first.AddsDirectories third := by
  obtain ⟨folders, hadds, hall⟩ := h
  obtain ⟨others, hadds', hall'⟩ := h'
  refine ⟨folders ++ others, hadds.trans hadds', ?_⟩
  intro entry hentry
  exact (List.mem_append.mp hentry).elim (hall entry) (hall' entry)

/-- A file of the changed disk was there before. -/
theorem AddsDirectories.mem_of_file (h : disk.AddsDirectories changed) {place : Place}
    (hmem : (place, Node.file content) ∈ changed.entries) :
    (place, Node.file content) ∈ disk.entries := by
  obtain ⟨folders, hadds, hall⟩ := h
  rw [hadds.entries] at hmem
  rcases List.mem_append.mp hmem with hmem | hmem
  · exact hmem
  · exact absurd (hall _ hmem) (by simp)

/-- The place of the last name of a path lies downwards from the top. -/
theorem downwards_of_locateLast {place : Place} (h : disk.locateLast path = .ok place) :
    Name.above ∉ place := by
  obtain ⟨parent, hparent, h⟩ := exists_of_bind_eq_ok h
  have hdown : Name.above ∉ parent := (locate_eq_ok_iff.mp hparent).downwards List.not_mem_nil
  split at h
  · cases h
    split
    · exact fun hmem => hdown (List.dropLast_subset _ hmem)
    · rename_i hname
      simp [hdown, Ne.symm hname]
  · cases h
    exact hdown
  · cases h
  · cases h

/-- Making one directory adds directories only. -/
theorem addsDirectories_makeDirectory (h : disk.makeDirectory path = .ok changed) :
    disk.AddsDirectories changed := by
  obtain ⟨place, hplace, h⟩ := exists_of_bind_eq_ok h
  split at h
  · cases h
  · rename_i hfree
    cases h
    rw [Bool.not_eq_true, Option.isSome_eq_false_iff, Option.isNone_iff_eq_none] at hfree
    have hadds : disk.Adds [(place, .directory)] (disk.put place .directory) :=
      adds_put hfree (downwards_of_locateLast hplace) (by simp)
    exact ⟨_, hadds, by simp⟩

/-- Making a directory with its missing parents adds directories only. -/
theorem addsDirectories_makeDirectoriesUp {names : List Name}
    (h : disk.makeDirectoriesUp names = .ok changed) : disk.AddsDirectories changed := by
  induction names generalizing changed with
  | nil =>
      cases h
      exact .refl disk
  | cons name above ih =>
      rw [makeDirectoriesUp] at h
      split at h
      · rename_i made hmade
        cases h
        exact addsDirectories_makeDirectory hmade
      · obtain ⟨ready, hready, h⟩ := exists_of_bind_eq_ok h
        split at h
        · rename_i made hmade
          cases h
          exact (ih hready).trans (addsDirectories_makeDirectory hmade)
        · dsimp only at h
          split at h
          · cases h
            exact ih hready
          · cases h
      · dsimp only at h
        split at h
        · cases h
          exact .refl disk
        · cases h

/-- Making directories adds directories only. -/
theorem addsDirectories_makeDirectories (h : disk.makeDirectories path = .ok changed) :
    disk.AddsDirectories changed :=
  addsDirectories_makeDirectoriesUp h

end Disk

end StoryCatalog
