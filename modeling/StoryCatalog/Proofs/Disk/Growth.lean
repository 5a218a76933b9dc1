import Mathlib.Data.List.Induction
import StoryCatalog.Catalog.Verify
import StoryCatalog.Proofs.Disk.Below

/-!
# Disks that grow

When entries are added to a disk, what stood somewhere still stands there and every path that led
somewhere still leads there (`Adds.locate_eq`). When a directory is made in a vacant place, the
files that are written into it are all that is listed there (`Adds.listing_eq`).
-/

namespace StoryCatalog

namespace Disk

variable {disk changed : Disk} {added : List (Place × Node)} {place : Place} {node : Node}

/-- What stands on the grown disk stood there before or was added. -/
theorem Adds.get?_eq_some_iff (h : disk.Adds added changed) :
    changed.get? place = some node ↔
      disk.get? place = some node ∨ place ≠ [] ∧ (place, node) ∈ added := by
  by_cases hplace : place = []
  · simp [hplace]
  · rw [Disk.get?_eq_some_iff hplace, Disk.get?_eq_some_iff hplace, h.entries, List.mem_append]
    simp [hplace]

/-- What stood there before stays. -/
theorem Adds.get?_of_some (h : disk.Adds added changed) (hget : disk.get? place = some node) :
    changed.get? place = some node :=
  h.get?_eq_some_iff.mpr (.inl hget)

/-- Where nothing stood and nothing was added there is nothing. -/
theorem Adds.get?_eq_none (h : disk.Adds added changed) (hold : disk.get? place = none)
    (hnew : ∀ node, (place, node) ∉ added) : changed.get? place = none := by
  rw [Option.eq_none_iff_forall_ne_some]
  intro node hget
  rcases h.get?_eq_some_iff.mp hget with hget | ⟨_, hmem⟩
  · rw [hold] at hget
    cases hget
  · exact hnew node hmem

/-- No link is new. -/
theorem Adds.link_of_some (h : disk.Adds added changed) {target : Text}
    (hget : changed.get? place = some (.link target)) : disk.get? place = some (.link target) := by
  rcases h.get?_eq_some_iff.mp hget with hget | ⟨_, hmem⟩
  · exact hget
  · exact absurd rfl (h.notLink _ hmem target)

/-- What is added turns no path aside. -/
theorem Adds.leads (h : disk.Adds added changed) {links : Nat} {reached : Place}
    {names : List Name} (hleads : disk.Leads links place names reached) :
    changed.Leads links place names reached := by
  induction hleads with
  | stop => exact .stop
  | above hdirectory _ ih => exact .above (h.get?_of_some hdirectory) ih
  | link hdirectory habove htarget _ ih =>
      exact .link (h.get?_of_some hdirectory) habove (h.get?_of_some htarget) ih
  | @free _ place name hdirectory habove hnone =>
      -- the free place at the end may have been taken, but not by a link
      refine Leads.child .stop (h.get?_of_some hdirectory) habove ?_
      intro target hlink
      rw [h.link_of_some hlink] at hnone
      cases hnone
  | enter hdirectory habove hnode hother _ ih =>
      exact .enter (h.get?_of_some hdirectory) habove (h.get?_of_some hnode) hother ih

/-- Paths that led to a place still lead there. -/
theorem Adds.locate_eq (h : disk.Adds added changed) {path : Path}
    (hlocate : disk.locate path = .ok place) : changed.locate path = .ok place :=
  locate_eq_ok_iff.mpr (h.leads (locate_eq_ok_iff.mp hlocate))

/-- So do paths up to their last name. -/
theorem Adds.locateLast_eq (h : disk.Adds added changed) {path : Path}
    (hlast : disk.locateLast path = .ok place) : changed.locateLast path = .ok place := by
  obtain ⟨parent, hparent, hlast⟩ := exists_of_bind_eq_ok hlast
  rw [locateLast, h.locate_eq hparent]
  dsimp only [bind, Except.bind]
  split at hlast
  · rename_i hdirectory hname
    rw [h.get?_of_some hdirectory, hname]
    exact hlast
  · rename_i hdirectory hname
    rw [h.get?_of_some hdirectory, hname]
    exact hlast
  · cases hlast
  · cases hlast

/-- Below a root the added nodes come behind the old ones. -/
theorem Adds.below_eq (h : disk.Adds added changed) (root : Place) :
    changed.below root = disk.below root ++ added.filterMap (belowEntry root) := by
  rw [Disk.below_eq, h.entries, List.filterMap_append, Disk.below_eq]

/-! ## Vacant places -/

/-- Nothing stands at a place or below it. -/
def Vacant (disk : Disk) (place : Place) : Prop :=
  ∀ names, disk.get? (place ++ names) = none

theorem Vacant.get?_eq_none (h : disk.Vacant place) : disk.get? place = none := by
  simpa using h []

/-- No node stands at a vacant place or below it. -/
theorem Vacant.not_prefix (h : disk.Vacant place) {other : Place}
    (hget : disk.get? other = some node) : ¬place <+: other := by
  rintro ⟨names, rfl⟩
  rw [h names] at hget
  cases hget

/-- Nothing stands below a vacant place. -/
theorem Vacant.below_eq_nil (h : disk.Vacant place) : disk.below place = [] := by
  rw [List.eq_nil_iff_forall_not_mem]
  rintro ⟨names, node⟩ hmem
  rw [mem_below, h names] at hmem
  cases hmem.2

/-- A place is vacant when no entry stands at it or below it. -/
theorem vacant_of_entries (hne : place ≠ []) (h : ∀ entry ∈ disk.entries, ¬place <+: entry.1) :
    disk.Vacant place := by
  intro names
  rw [Option.eq_none_iff_forall_ne_some]
  intro node hget
  exact h _ ((Disk.get?_eq_some_iff (by simp [hne])).mp hget) (List.prefix_append place names)

/-- A place stays vacant when nothing is added there. -/
theorem Adds.vacant (h : disk.Adds added changed) (hvacant : disk.Vacant place)
    (hadded : ∀ entry ∈ added, ¬place <+: entry.1) : changed.Vacant place := by
  intro names
  refine h.get?_eq_none (hvacant names) ?_
  intro node hmem
  exact hadded _ hmem (List.prefix_append place names)

/-- A free place that a path could end at is the next one from a directory. -/
theorem exists_of_locateLast_of_free {path : Path} (h : disk.locateLast path = .ok place)
    (hfree : disk.get? place = none) :
    ∃ names parent name, path.names = names ++ [name] ∧ name ≠ Name.above ∧
      disk.Leads linkLimit [] names parent ∧ disk.get? parent = some .directory ∧
      place = parent ++ [name] := by
  obtain ⟨parent, hparent, h⟩ := exists_of_bind_eq_ok h
  have hleads := locate_eq_ok_iff.mp hparent
  split at h
  · rename_i name hdirectory hlast
    obtain ⟨names, hnames⟩ := List.getLast?_eq_some_iff.mp hlast
    cases h
    split at hfree
    · -- the place above a directory is taken
      rw [(hleads.direct direct_nil).get?_dropLast] at hfree
      cases hfree
    · rename_i hname
      rw [if_neg hname]
      rw [hnames, List.dropLast_concat] at hleads
      exact ⟨names, parent, name, hnames, hname, hleads, hdirectory, rfl⟩
  · rename_i hdirectory _
    cases h
    rw [hdirectory] at hfree
    cases hfree
  · cases h
  · cases h

/-- A directory is made in the free place that a path ends at, and the path then leads there. -/
theorem makeDirectories_of_free {path : Path} (h : disk.locateLast path = .ok place)
    (hfree : disk.get? place = none) :
    disk.makeDirectories path = .ok (disk.put place .directory) ∧
      disk.Adds [(place, .directory)] (disk.put place .directory) ∧
      (disk.put place .directory).locate path = .ok place ∧
      (disk.put place .directory).get? place = some .directory := by
  have hadds : disk.Adds [(place, .directory)] (disk.put place .directory) :=
    adds_put hfree (downwards_of_locateLast h) (by simp)
  obtain ⟨names, parent, name, hnames, hname, hleads, hdirectory, rfl⟩ :=
    exists_of_locateLast_of_free h hfree
  refine ⟨?_, hadds, ?_, get?_put_self (by simp) _⟩
  · have hmade : disk.makeDirectory ⟨.top, names ++ [name]⟩ =
        .ok (disk.put (parent ++ [name]) .directory) := by
      have hlast : disk.locateLast ⟨.top, names ++ [name]⟩ = .ok (parent ++ [name]) := by
        rw [← hnames]
        exact h
      rw [makeDirectory, hlast]
      show (if (disk.get? (parent ++ [name])).isSome then _ else _) = _
      rw [hfree]
      rfl
    rw [makeDirectories, hnames, List.reverse_append, List.reverse_singleton,
      List.singleton_append, makeDirectoriesUp]
    simp only [List.reverse_cons, List.reverse_reverse, hmade]
  · rw [locate_eq_ok_iff, hnames]
    refine (hadds.leads hleads).child (hadds.get?_of_some hdirectory) hname ?_
    intro target hlink
    rw [hadds.link_of_some hlink] at hfree
    cases hfree

/-! ## Files in a directory -/

/-- A path to a directory leads on to what stands in it, unless that is a link. -/
theorem locate_child {path : Path} (h : disk.locate path = .ok place)
    (hdirectory : disk.get? place = some .directory) {name : Name} (hname : name ≠ Name.above)
    (hlink : ∀ target, disk.get? (place ++ [name]) ≠ some (.link target)) :
    disk.locate (path.child name) = .ok (place ++ [name]) :=
  locate_eq_ok_iff.mpr ((locate_eq_ok_iff.mp h).child hdirectory hname hlink)

/-- A file is written under a free name of a directory. -/
theorem write_child_of_free {path : Path} (h : disk.locate path = .ok place)
    (hdirectory : disk.get? place = some .directory) {name : Name} (hname : name ≠ Name.above)
    (hfree : disk.get? (place ++ [name]) = none) (content : Bytes) :
    disk.write (path.child name) content = .ok (disk.put (place ++ [name]) (.file content)) ∧
      disk.Adds [(place ++ [name], .file content)]
        (disk.put (place ++ [name]) (.file content)) := by
  have hlocate := locate_child h hdirectory hname (by simp [hfree])
  refine ⟨?_, adds_put hfree ((locate_eq_ok_iff.mp hlocate).downwards List.not_mem_nil) (by simp)⟩
  rw [write, hlocate]
  dsimp only [bind, Except.bind]
  rw [hfree]

/-- A path that leads to a place where no file or link can be, and that is written to, was free. -/
theorem free_of_write {path : Path} {content : Bytes} (h : disk.write path content = .ok changed)
    (hlocate : disk.locate path = .ok place)
    (hfile : ∀ content, disk.get? place ≠ some (.file content)) : disk.get? place = none := by
  obtain ⟨spot, hspot, hdirectory, hlink, _⟩ := write_cases h
  rw [hlocate] at hspot
  cases hspot
  cases hnode : disk.get? place with
  | none => rfl
  | some node =>
      cases node with
      | file content => exact absurd hnode (hfile content)
      | link target => exact absurd hnode (hlink target)
      | directory => exact absurd hnode hdirectory

/-! ## The files below a directory -/

/-- The path of a direct place leads there. -/
theorem locate_path (h : disk.Direct place) (hdown : Name.above ∉ place) :
    disk.locate place.path = .ok place := by
  rw [locate_eq_ok_iff]
  show disk.Leads linkLimit [] place place
  induction place using List.reverseRec with
  | nil => exact .stop
  | append_singleton front name ih =>
      have hfront : disk.Direct front := by
        have := h.dropLast
        rwa [List.dropLast_concat] at this
      have hdirectory : disk.get? front = some .directory :=
        h.directory (List.prefix_append front [name]) (by simp)
      rw [List.mem_append, not_or, List.mem_singleton] at hdown
      exact (ih hfront hdown.1).child hdirectory (Ne.symm hdown.2) h.not_link

/-- Where no link is on the way, the content that the path of a place leads to stands there. -/
theorem get?_of_content?_path (hdown : Name.above ∉ place)
    (hlink : ∀ front, front <+: place → ∀ target, disk.get? front ≠ some (.link target))
    {content : Bytes} (h : disk.content? place.path = some content) :
    disk.get? place = some (.file content) := by
  cases hlocate : disk.locate place.path with
  | error e =>
      rw [content?, node?, hlocate] at h
      cases h
  | ok reached =>
      have heq := (locate_eq_ok_iff.mp hlocate).eq_append hdown hlink
      rw [List.nil_append] at heq
      rw [content?_eq_some_iff hlocate, heq] at h
      exact h

/-- What stands below a vacant place was added. -/
theorem Adds.mem_of_mem_below (h : disk.Adds added changed) (hvacant : disk.Vacant place)
    {names : List Name} (hmem : (names, node) ∈ changed.below place) :
    (place ++ names, node) ∈ added := by
  rcases h.get?_eq_some_iff.mp (mem_below.mp hmem).2 with hget | ⟨_, hmem⟩
  · rw [hvacant names] at hget
    cases hget
  · exact hmem

/-- What is added below a vacant place has the content that its path leads to. -/
theorem Adds.eq_file_of_content? (h : disk.Adds added changed) (hvacant : disk.Vacant place)
    (hdirect : changed.Direct place) {names : List Name}
    (hmem : (names, node) ∈ changed.below place) {content : Bytes}
    (hcontent : changed.content? (Place.path (place ++ names)) = some content) :
    node = .file content := by
  have hdown := h.downwards _ (h.mem_of_mem_below hvacant hmem)
  have hlink : ∀ front, front <+: place ++ names → ∀ target,
      changed.get? front ≠ some (.link target) := by
    -- there are directories on the way to the place, and below it no links have been added
    intro front hfront target hget
    have hold := hvacant.not_prefix (h.link_of_some hget)
    have habove : front <+: place :=
      (List.prefix_or_prefix_of_prefix hfront (List.prefix_append place names)).resolve_right hold
    have hne : front ≠ place := by
      rintro rfl
      exact hold List.prefix_rfl
    rw [hdirect.directory habove hne] at hget
    cases hget
  have hfile := get?_of_content?_path hdown hlink hcontent
  exact Option.some.inj ((mem_below.mp hmem).2.symm.trans hfile)

section

variable {folders others : List (Place × Node)} {first second : Name} {content more : Bytes}

/-- Below a vacant place there is what was put there: folders and two files. -/
theorem Adds.below_vacant
    (h : disk.Adds (folders ++ [(place ++ [first], .file content), (place ++ [second], .file more)]
      ++ others) changed)
    (hvacant : disk.Vacant place) (hothers : ∀ entry ∈ others, ¬place <+: entry.1) :
    changed.below place = folders.filterMap (belowEntry place) ++
      [([first], .file content), ([second], .file more)] := by
  have hnone : others.filterMap (belowEntry place) = [] := by
    rw [List.eq_nil_iff_forall_not_mem]
    rintro ⟨names, node⟩ hmem
    exact hothers _ (mem_filterMap_belowEntry.mp hmem).2 (List.prefix_append place names)
  have hfile : ∀ name file, belowEntry place (place ++ [name], .file file) =
      some ([name], .file file) := fun _ _ => belowEntry_eq_some_iff.mpr ⟨by simp, rfl⟩
  rw [h.below_eq, hvacant.below_eq_nil, List.filterMap_append, List.filterMap_append, hnone,
    List.filterMap_cons_some (hfile ..), List.filterMap_cons_some (hfile ..), List.filterMap_nil,
    List.nil_append, List.append_nil]

/-- When directories and two files are all that is added below a vacant place, the two files are
listed there. -/
theorem Adds.listing_eq
    (h : disk.Adds (folders ++ [(place ++ [first], .file content), (place ++ [second], .file more)]
      ++ others) changed)
    (hvacant : disk.Vacant place) (hfolders : ∀ entry ∈ folders, entry.2 = Node.directory)
    (hothers : ∀ entry ∈ others, ¬place <+: entry.1) {path : Path}
    (hlocate : changed.locate path = .ok place)
    (hdirectory : changed.get? place = some .directory) :
    changed.listing path = [(first, content), (second, more)] := by
  have hdirect := (locate_eq_ok_iff.mp hlocate).direct direct_nil
  have hbelow := h.below_vacant hvacant hothers
  have hfile : ∀ name file, ([name], .file file) ∈ changed.below place →
      changed.content? (Place.path (place ++ [name])) = some file := by
    intro name file hmem
    have hget := (mem_below.mp hmem).2
    have hchild : changed.Direct (place ++ [name]) := hdirect.child hdirectory (by simp [hget])
    have hdown := h.downwards _ (h.mem_of_mem_below hvacant hmem)
    exact (content?_eq_some_iff (locate_path hchild hdown)).mpr hget
  have hnone : ∀ names node, (names, node) ∈ folders.filterMap (belowEntry place) →
      changed.content? (Place.path (place ++ names)) = none := by
    intro names node hmem
    have hentry := (mem_filterMap_belowEntry.mp hmem).2
    rw [Option.eq_none_iff_forall_ne_some]
    intro found hfound
    have hmem : (names, node) ∈ changed.below place := by
      rw [hbelow]
      exact List.mem_append_left _ hmem
    rw [h.eq_file_of_content? hvacant hdirect hmem hfound] at hentry
    cases hfolders _ hentry
  have hfiles : changed.filesBelow place = [([first], content), ([second], more)] := by
    have hfirst := hfile first content (by simp [hbelow])
    have hsecond := hfile second more (by simp [hbelow])
    rw [filesBelow, hbelow, List.filterMap_append, List.filterMap_eq_nil_iff.mpr, List.nil_append]
    · simp only [List.filterMap_cons, List.filterMap_nil, hfirst, hsecond, Option.map_some]
    · rintro ⟨names, node⟩ hmem
      exact Option.map_eq_none_iff.mpr (hnone names node hmem)
  have hname : ∀ name, joinNames [name] = name := by
    intro name
    rw [joinNames, Text.join, List.intercalate_singleton]
  rw [listing, hlocate]
  dsimp only
  rw [hfiles, List.map_cons, List.map_cons, List.map_nil, hname, hname]

end

end Disk

end StoryCatalog
