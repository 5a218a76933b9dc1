import StoryCatalog.Proofs.Disk.Below

/-!
# Writing in place

A file that is written leads no path to another place, and no path leads somewhere that led nowhere
before (`locate_write_iff`). So a write is seen only at its own place: what is picked from below a
root is as before, if nothing is picked there (`filterMap_below_put`), and so is the content that a
path leads to, if it leads elsewhere (`content?_write_eq`). Writing what is there already
(`write_of_content`) and making a directory that is there already (`makeDirectories_of_directory`)
leave the disk as it is.
-/

namespace StoryCatalog

namespace Disk

variable {disk changed : Disk} {path : Path} {place spot : Place} {node : Node} {content : Bytes}

/-! ## Putting what is there -/

theorem setEntry_of_lookup {entries : List (Place × Node)} (h : entries.lookup place = some node) :
    setEntry place node entries = entries := by
  induction entries with
  | nil => cases h
  | cons entry rest ih =>
      obtain ⟨key, old⟩ := entry
      rw [List.lookup_cons] at h
      unfold setEntry
      split at h
      · rename_i hkey
        rw [beq_iff_eq] at hkey
        cases h
        rw [if_pos hkey.symm, hkey]
      · rename_i hkey
        rw [beq_eq_false_iff_ne] at hkey
        rw [if_neg (Ne.symm hkey), ih h]

/-- Putting the node that stands at a place changes nothing. -/
theorem put_of_get? (hplace : place ≠ []) (h : disk.get? place = some node) :
    disk.put place node = disk := by
  rw [get?, if_neg (by simpa using hplace)] at h
  obtain ⟨entries, hdistinct⟩ := disk
  simp only [put, setEntry_of_lookup h]

/-- Writing a file that has this content already changes nothing. -/
theorem write_of_content (hlocate : disk.locate path = .ok place)
    (h : disk.get? place = some (.file content)) : disk.write path content = .ok disk := by
  have hplace : place ≠ [] := by
    rintro rfl
    cases h
  rw [write, hlocate]
  dsimp only [bind, Except.bind]
  rw [h]
  dsimp only
  rw [put_of_get? hplace h]

/-! ## What a write leaves alone -/

/-- A path that leads somewhere past a new file led there before. -/
theorem Leads.of_put (hfree : disk.get? spot ≠ some .directory)
    (hlink : ∀ target, disk.get? spot ≠ some (.link target)) {links : Nat} {reached : Place}
    {names : List Name} (h : (disk.put spot (.file content)).Leads links place names reached) :
    disk.Leads links place names reached := by
  have hspot : spot ≠ [] := by
    rintro rfl
    exact hfree rfl
  have hfile : (disk.put spot (.file content)).get? spot = some (.file content) :=
    get?_put_self hspot _
  -- of all nodes only files are new, so directories and links were there before
  have hkeep : ∀ {other node}, (disk.put spot (.file content)).get? other = some node →
      (∀ content, node ≠ .file content) → disk.get? other = some node := by
    intro other node hget hnode
    by_cases heq : other = spot
    · rw [heq, hfile] at hget
      exact absurd (Option.some.inj hget).symm (hnode content)
    · rwa [get?_put_of_ne heq] at hget
  induction h with
  | stop => exact .stop
  | above hdirectory _ ih => exact .above (hkeep hdirectory (by simp)) ih
  | link hdirectory habove htarget _ ih =>
      exact .link (hkeep hdirectory (by simp)) habove (hkeep htarget (by simp)) ih
  | @free _ place name hdirectory habove hnone =>
      refine .free (hkeep hdirectory (by simp)) habove ?_
      have hne : place ++ [name] ≠ spot := by
        rintro rfl
        rw [hfile] at hnone
        cases hnone
      rwa [get?_put_of_ne hne] at hnone
  | @enter _ place _ name rest node hdirectory habove hnode hother hleads ih =>
      have habide : disk.get? place = some .directory := hkeep hdirectory (by simp)
      by_cases heq : place ++ [name] = spot
      · -- a file ends the path, and before it was there the path ended at the free place
        subst heq
        cases hold : disk.get? (place ++ [name]) with
        | some node => exact .enter habide habove hold (fun _ h => hlink _ (h ▸ hold)) ih
        | none =>
            cases hleads with
            | stop => exact .free habide habove hold
            | above hfile' => exact absurd (hfile.symm.trans hfile') (by simp)
            | link hfile' => exact absurd (hfile.symm.trans hfile') (by simp)
            | free hfile' => exact absurd (hfile.symm.trans hfile') (by simp)
            | enter hfile' => exact absurd (hfile.symm.trans hfile') (by simp)
      · refine .enter habide habove ?_ hother ih
        rwa [get?_put_of_ne heq] at hnode

/-- A write turns no path aside and opens none. -/
theorem locate_write_iff (h : disk.write path content = .ok changed) {other : Path} :
    changed.locate other = .ok place ↔ disk.locate other = .ok place := by
  refine ⟨fun hplace => ?_, locate_write h⟩
  obtain ⟨spot, _, hdirectory, hlink, rfl⟩ := write_cases h
  exact locate_eq_ok_iff.mpr ((locate_eq_ok_iff.mp hplace).of_put hdirectory hlink)

/-- A path that does not lead to what was written leads to the same content. -/
theorem content?_write_eq (h : disk.write path content = .ok changed)
    (hspot : disk.locate path = .ok spot) {other : Path}
    (hother : changed.locate other ≠ .ok spot) :
    changed.content? other = disk.content? other := by
  cases hlocate : changed.locate other with
  | ok place =>
      obtain ⟨_, hplace, _, _, hput⟩ := write_cases h
      cases hspot.symm.trans hplace
      have hne : place ≠ spot := by
        rintro rfl
        exact hother hlocate
      refine Option.ext fun found => ?_
      rw [content?_eq_some_iff hlocate, content?_eq_some_iff ((locate_write_iff h).mp hlocate),
        hput, get?_put_of_ne hne]
  | error e =>
      cases hbefore : disk.locate other with
      | ok place =>
          rw [(locate_write_iff h).mpr hbefore] at hlocate
          cases hlocate
      | error e' => rw [content?, content?, node?, node?, hlocate, hbefore]

/-- What is picked from entries does not depend on an entry from which nothing is picked. -/
theorem filterMap_setEntry {β : Type} {pick : Place × Node → Option β}
    (hpick : ∀ node, pick (place, node) = none) (node : Node) (entries : List (Place × Node)) :
    (setEntry place node entries).filterMap pick = entries.filterMap pick := by
  induction entries with
  | nil => rw [setEntry, List.filterMap_cons_none (hpick node)]
  | cons entry rest ih =>
      obtain ⟨key, old⟩ := entry
      unfold setEntry
      split
      · rename_i hkey
        cases hkey
        rw [List.filterMap_cons_none (hpick node), List.filterMap_cons_none (hpick old)]
      · rw [List.filterMap_cons, List.filterMap_cons, ih]

/-- What is picked from below a root does not depend on a place from which nothing is picked. -/
theorem filterMap_below_put {root : Place} {β : Type} {pick : List Name × Node → Option β}
    (hpick : ∀ names node, names ≠ [] → spot = root ++ names → pick (names, node) = none)
    (node : Node) :
    ((disk.put spot node).below root).filterMap pick = (disk.below root).filterMap pick := by
  rw [below_eq, below_eq, List.filterMap_filterMap, List.filterMap_filterMap]
  refine filterMap_setEntry (fun node => ?_) node disk.entries
  rw [Option.bind_eq_none_iff]
  rintro ⟨names, found⟩ hentry
  obtain ⟨hne, heq⟩ := belowEntry_eq_some_iff.mp hentry
  exact hpick names found hne (Prod.mk.inj heq).1

/-! ## Making what is there -/

theorem node?_eq_some_iff :
    disk.node? path = some node ↔
      ∃ place, disk.locate path = .ok place ∧ disk.get? place = some node := by
  unfold node?
  cases disk.locate path with
  | ok place => simp
  | error e => simp

/-- A directory that a path leads to cannot be made there again. -/
theorem makeDirectory_of_directory (hlocate : disk.locate path = .ok place)
    (hdirectory : disk.get? place = some .directory) (hpath : path.names ≠ []) :
    disk.makeDirectory path = .error .alreadyThere := by
  obtain ⟨names, last, hnames⟩ := List.eq_nil_or_concat' path.names |>.resolve_left hpath
  have hleads := locate_eq_ok_iff.mp hlocate
  rw [hnames] at hleads
  obtain ⟨parent, hparent, habove⟩ := hleads.directory
  have hlocateParent : disk.locate ⟨path.anchor, path.names.dropLast⟩ = .ok parent := by
    rw [locate_eq_ok_iff, hnames, List.dropLast_concat]
    exact hparent
  have hlast : disk.locateLast path =
      .ok (if last = Name.above then parent.dropLast else parent ++ [last]) := by
    rw [locateLast, hlocateParent, hnames, List.getLast?_concat]
    dsimp only [bind, Except.bind]
    rw [habove]
  have htaken : (disk.get? (if last = Name.above then parent.dropLast
      else parent ++ [last])).isSome = true := by
    split
    · rw [(hparent.direct direct_nil).get?_dropLast]
      rfl
    · rename_i hname
      -- a free place would be where the path ends, and it ends at a directory
      rw [Option.isSome_iff_ne_none]
      intro hfree
      have hchild := hparent.child habove hname (by simp [hfree])
      rw [hleads.unique hchild, hfree] at hdirectory
      cases hdirectory
  rw [makeDirectory, hlast]
  dsimp only [bind, Except.bind]
  rw [if_pos htaken]

/-- Making directories where a path leads to one changes nothing. -/
theorem makeDirectories_of_directory (h : disk.node? path = some .directory) :
    disk.makeDirectories path = .ok disk := by
  obtain ⟨place, hlocate, hdirectory⟩ := node?_eq_some_iff.mp h
  rcases List.eq_nil_or_concat' path.names with hnames | ⟨names, last, hnames⟩
  · rw [makeDirectories, hnames]
    rfl
  · have hagain : disk.locate ⟨.top, names ++ [last]⟩ = .ok place := by
      rw [← hlocate, locate, locate, hnames]
    have hmade := makeDirectory_of_directory hagain hdirectory (by simp)
    have hthere : disk.isDirectory ⟨.top, names ++ [last]⟩ = true := by
      rw [isDirectory, node?, hagain]
      dsimp only
      rw [hdirectory]
    rw [makeDirectories, hnames, List.reverse_append, List.reverse_singleton,
      List.singleton_append, makeDirectoriesUp]
    simp only [List.reverse_cons, List.reverse_reverse, hmade, hthere, if_true]

end Disk

end StoryCatalog
