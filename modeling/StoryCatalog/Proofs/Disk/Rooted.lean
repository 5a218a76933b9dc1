import StoryCatalog.Disk.Resolve
import StoryCatalog.Proofs.Disk.Growth

/-!
# Disks on which every node stands in a directory

On such a disk a path leads straight to each node (`Rooted.direct`) and is resolved to its place
(`Direct.resolve_path`). What a disk answers is a matter of its nodes, and not of the order in which
it holds them (`get?_of_perm`, `content?_of_perm`).
-/

namespace StoryCatalog

namespace Disk

variable {disk other : Disk} {place front : Place} {node : Node}

/-- Every node stands in a directory, under names that lead downwards and have no slash in them. -/
structure Rooted (disk : Disk) : Prop where
  directory : ∀ {place node}, disk.get? place = some node →
    disk.get? place.dropLast = some .directory
  named : ∀ {place node}, disk.get? place = some node →
    ∀ name ∈ place, name ≠ Name.above ∧ (0x2F : CodePoint) ∉ name

theorem Rooted.above_notMem (h : disk.Rooted) (hget : disk.get? place = some node) :
    Name.above ∉ place :=
  fun hmem => (h.named hget _ hmem).1 rfl

/-- Above a node there are directories only. -/
theorem Rooted.directory_of_prefix (h : disk.Rooted) (hget : disk.get? place = some node)
    (hfront : front <+: place) (hne : front ≠ place) : disk.get? front = some .directory := by
  induction place using List.reverseRec generalizing node with
  | nil => exact absurd (List.prefix_nil.mp hfront) hne
  | append_singleton place name ih =>
      have hplace := h.directory hget
      rw [List.dropLast_concat] at hplace
      rcases List.prefix_concat_iff.mp hfront with heq | hfront
      · exact absurd heq hne
      · by_cases heq : front = place
        · rw [heq]
          exact hplace
        · exact ih hplace hfront heq

/-- What is there at a place without being a link is reached by the names of the place. -/
theorem Rooted.direct (h : disk.Rooted) (hget : disk.get? place = some node)
    (hlink : ∀ target, node ≠ .link target) : disk.Direct place where
  not_link := by
    intro target heq
    rw [hget] at heq
    exact hlink target (Option.some.inj heq)
  directory := h.directory_of_prefix hget

/-- A disk is rooted when its entries are. -/
theorem rooted_of_entries
    (h : ∀ entry ∈ disk.entries, disk.get? entry.1.dropLast = some .directory ∧
      ∀ name ∈ entry.1, name ≠ Name.above ∧ (0x2F : CodePoint) ∉ name) : disk.Rooted where
  directory := by
    intro place node hget
    by_cases hplace : place = []
    · subst hplace
      rfl
    · exact (h _ ((get?_eq_some_iff hplace).mp hget)).1
  named := by
    intro place node hget
    by_cases hplace : place = []
    · subst hplace
      exact fun _ hname => absurd hname List.not_mem_nil
    · exact (h _ ((get?_eq_some_iff hplace).mp hget)).2

/-! ## Paths without links -/

/-- Names that all have nodes which are no links are taken one by one. -/
theorem resolveWith_of_direct {expand : Place → Place → List Name → Resolution}
    {names : List Name} (hdown : Name.above ∉ names)
    (hnode : ∀ front, front <+: names →
      ∃ node, disk.get? (place ++ front) = some node ∧ ∀ target, node ≠ .link target) :
    disk.resolveWith expand place names = .place (place ++ names) := by
  induction names generalizing place with
  | nil => rw [resolveWith, List.append_nil]
  | cons name rest ih =>
      rw [List.mem_cons, not_or] at hdown
      have hrest := @ih (place ++ [name]) hdown.2 fun front hfront => by
        rw [List.append_assoc]
        exact hnode _ (List.cons_prefix_cons.mpr ⟨rfl, hfront⟩)
      rw [List.append_assoc] at hrest
      obtain ⟨node, hget, hlink⟩ := hnode [name] (List.prefix_append [name] rest)
      rw [resolveWith, if_neg (Ne.symm hdown.1), hget]
      cases node with
      | link target => exact absurd rfl (hlink target)
      | directory => exact hrest
      | file => exact hrest

/-- The path of a node with no link on it is resolved to the place of the node. -/
theorem Direct.resolve_path (h : disk.Direct place) (hdown : Name.above ∉ place)
    (hget : disk.get? place = some node) : disk.resolve place.path = .ok place := by
  have hnode : ∀ front, front <+: place →
      ∃ node, disk.get? front = some node ∧ ∀ target, node ≠ .link target := by
    intro front hfront
    by_cases heq : front = place
    · subst heq
      exact ⟨node, hget, fun target hlink => h.not_link target (hget.trans (congrArg some hlink))⟩
    · exact ⟨.directory, h.directory hfront heq, by simp⟩
  have hresolved : disk.resolveInside disk.entries.length [] [] place = .place place := by
    cases disk.entries.length with
    | zero => exact resolveWith_of_direct hdown hnode
    | succ links => exact resolveWith_of_direct hdown hnode
  rw [resolve, Place.path, hresolved]

/-- A link stands at the end of a path. -/
def EndsOnLink (disk : Disk) (path : Path) : Prop :=
  ∃ place target, disk.locateLast path = .ok place ∧ disk.get? place = some (.link target)

/-- The path of a node ends at the node. -/
theorem Rooted.locateLast_path (h : disk.Rooted) (hget : disk.get? place = some node)
    (hne : place ≠ []) : disk.locateLast place.path = .ok place := by
  obtain ⟨front, name, rfl⟩ := (List.eq_nil_or_concat' place).resolve_left hne
  have hfront := h.directory hget
  rw [List.dropLast_concat] at hfront
  have hparent : disk.locate ⟨.top, (front ++ [name]).dropLast⟩ = .ok front := by
    rw [List.dropLast_concat]
    exact locate_path (h.direct hfront (by simp)) (h.above_notMem hfront)
  have hname : name ≠ Name.above := (h.named hget name (by simp)).1
  simp only [locateLast, Place.path, hparent, bind, Except.bind, hfront, List.getLast?_concat,
    if_neg hname]

/-- The path of a node ends on a link exactly when the node is one. -/
theorem Rooted.endsOnLink_iff (h : disk.Rooted) (hget : disk.get? place = some node)
    (hne : place ≠ []) : disk.EndsOnLink place.path ↔ ∃ target, node = .link target := by
  have hlocate := h.locateLast_path hget hne
  constructor
  · rintro ⟨reached, target, hreached, htarget⟩
    cases hlocate.symm.trans hreached
    exact ⟨target, Option.some.inj (hget.symm.trans htarget)⟩
  · rintro ⟨target, rfl⟩
    exact ⟨place, target, hlocate, hget⟩

/-! ## The order of entries -/

theorem get?_of_perm (h : disk.entries.Perm other.entries) (place : Place) :
    disk.get? place = other.get? place := by
  by_cases hplace : place = []
  · subst hplace
    rfl
  · refine Option.ext fun node => ?_
    rw [get?_eq_some_iff hplace, get?_eq_some_iff hplace, h.mem_iff]

/-- One step along a path does not depend on the order of the entries. -/
theorem followWith_of_perm (h : disk.entries.Perm other.entries)
    (expand : Place → List Name → Except DiskError Place) (place : Place) (names : List Name) :
    disk.followWith expand place names = other.followWith expand place names := by
  induction names generalizing place with
  | nil => rfl
  | cons name rest ih => rw [followWith, followWith, ih, ih, get?_of_perm h, get?_of_perm h]

/-- Following a path does not depend on the order of the entries. -/
theorem follow_of_perm (h : disk.entries.Perm other.entries) (links : Nat) :
    disk.follow links = other.follow links := by
  funext place names
  induction links generalizing place names with
  | zero => exact followWith_of_perm h _ place names
  | succ links ih =>
      have hfollow : disk.follow links = other.follow links := funext₂ ih
      rw [follow, follow, hfollow]
      exact followWith_of_perm h _ place names

/-- The content of a path does not depend on the order of the entries. -/
theorem content?_of_perm (h : disk.entries.Perm other.entries) (path : Path) :
    disk.content? path = other.content? path := by
  have hlocate : disk.locate path = other.locate path := by
    rw [locate, locate, follow_of_perm h]
  rw [content?, content?, node?, node?, hlocate]
  simp only [get?_of_perm h]

/-- Entries in another order list the same files below a place in another order. -/
theorem below_of_perm (h : disk.entries.Perm other.entries) (root : Place) :
    (disk.below root).Perm (other.below root) :=
  h.filterMap _

/-- A rooted disk stays rooted when its entries are listed in another order. -/
theorem Rooted.of_perm (h : disk.Rooted) (hperm : other.entries.Perm disk.entries) :
    other.Rooted where
  directory := by
    intro place node hget
    rw [get?_of_perm hperm] at hget ⊢
    exact h.directory hget
  named := by
    intro place node hget
    rw [get?_of_perm hperm] at hget
    exact h.named hget

end Disk

end StoryCatalog
