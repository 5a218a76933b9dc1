import StoryCatalog.Disk.Access

/-!
# Following a path

`Disk.Leads` says how a path is followed, one rule for each kind of step, and the disk follows a
path exactly as the rules say (`follow_eq_ok_iff`). A path never ends on a link (`Leads.direct`), a
path with one more name goes through a directory (`Leads.directory`) and one step further
(`Leads.child`), and a file that is put where no directory and no link stood turns no path aside
(`Leads.put`).
-/

namespace StoryCatalog

namespace Disk

/-! ## What stands at a place after a change -/

/-- Setting an entry changes what is found at its place only. -/
theorem lookup_setEntry (place other : Place) (node : Node) (entries : List (Place × Node)) :
    (setEntry place node entries).lookup other =
      if other = place then some node else entries.lookup other := by
  induction entries with
  | nil =>
      rw [setEntry, List.lookup_cons]
      by_cases h : other = place
      · simp [h]
      · simp [h, beq_false_of_ne h]
  | cons entry rest ih =>
      obtain ⟨key, first⟩ := entry
      unfold setEntry
      by_cases hkey : key = place
      · rw [if_pos hkey, List.lookup_cons, List.lookup_cons]
        subst hkey
        by_cases h : other = key
        · simp [h]
        · simp [h, beq_false_of_ne h]
      · rw [if_neg hkey, List.lookup_cons, List.lookup_cons, ih]
        by_cases h : other = key
        · simp [h, hkey]
        · simp [beq_false_of_ne h]

variable {disk : Disk}

@[simp]
theorem get?_nil : disk.get? [] = some .directory :=
  rfl

/-- What is put at a place stands there. -/
theorem get?_put_self {place : Place} (h : place ≠ []) (node : Node) :
    (disk.put place node).get? place = some node := by
  rw [get?, if_neg (by simpa using h), put, lookup_setEntry, if_pos rfl]

/-- What is put at one place changes no other. -/
theorem get?_put_of_ne {place other : Place} (h : other ≠ place) (node : Node) :
    (disk.put place node).get? other = disk.get? other := by
  unfold get?
  split
  · rfl
  · rw [put, lookup_setEntry, if_neg h]

/-! ## The rules of following -/

/-- Names lead from a place to another one, through at most this many links. -/
inductive Leads (disk : Disk) : Nat → Place → List Name → Place → Prop where
  | stop {links : Nat} {place : Place} : Leads disk links place [] place
  | above {links : Nat} {place reached : Place} {rest : List Name} :
      disk.get? place = some .directory → Leads disk links place.dropLast rest reached →
        Leads disk links place (Name.above :: rest) reached
  | link {links : Nat} {place reached : Place} {name : Name} {rest : List Name} {target : Text} :
      disk.get? place = some .directory → name ≠ Name.above →
        disk.get? (place ++ [name]) = some (.link target) →
        Leads disk links (linkStart place (Path.ofText target))
          ((Path.ofText target).names ++ rest) reached →
        Leads disk (links + 1) place (name :: rest) reached
  | free {links : Nat} {place : Place} {name : Name} :
      disk.get? place = some .directory → name ≠ Name.above → disk.get? (place ++ [name]) = none →
        Leads disk links place [name] (place ++ [name])
  | enter {links : Nat} {place reached : Place} {name : Name} {rest : List Name} {node : Node} :
      disk.get? place = some .directory → name ≠ Name.above →
        disk.get? (place ++ [name]) = some node → (∀ target, node ≠ .link target) →
        Leads disk links (place ++ [name]) rest reached →
        Leads disk links place (name :: rest) reached

/-- What happens to a link when this many may still be passed. -/
def expand (disk : Disk) : Nat → Place → List Name → Except DiskError Place
  | 0 => fun _ _ => .error .tooManyLinks
  | links + 1 => disk.follow links

/-- Names are followed step by step, through a bounded number of links. -/
theorem follow_eq (disk : Disk) (links : Nat) :
    disk.follow links = disk.followWith (disk.expand links) := by
  cases links with
  | zero => rfl
  | succ links => rfl

/-- Following by names obeys the rules if following through links does. -/
theorem leads_of_followWith {links : Nat}
    (hexpand : ∀ {place names reached}, disk.expand links place names = .ok reached →
      ∃ fewer, links = fewer + 1 ∧ disk.Leads fewer place names reached)
    {place reached : Place} {names : List Name}
    (h : disk.followWith (disk.expand links) place names = .ok reached) :
    disk.Leads links place names reached := by
  induction names generalizing place with
  | nil =>
      cases h
      exact .stop
  | cons name rest ih =>
      rw [followWith] at h
      split at h
      · cases h
      rename_i hdirectory
      rw [ne_eq, Decidable.not_not] at hdirectory
      split at h
      · rename_i habove
        subst habove
        exact .above hdirectory (ih h)
      rename_i habove
      split at h
      · rename_i target hlink
        obtain ⟨fewer, rfl, hleads⟩ := hexpand h
        exact .link hdirectory habove hlink hleads
      · rename_i hnone
        split at h
        · rename_i hrest
          cases h
          rw [List.isEmpty_iff.mp hrest]
          exact .free hdirectory habove hnone
        · cases h
      · rename_i node hlink hnode
        refine .enter hdirectory habove hnode ?_ (ih h)
        rintro target rfl
        exact hlink target rfl

/-- Names lead to the place that they are followed to. -/
theorem leads_of_follow {links : Nat} {place reached : Place} {names : List Name}
    (h : disk.follow links place names = .ok reached) : disk.Leads links place names reached := by
  induction links generalizing place reached names with
  | zero =>
      rw [follow_eq] at h
      refine leads_of_followWith ?_ h
      intro _ _ _ hexpand
      cases hexpand
  | succ links ih =>
      rw [follow_eq] at h
      exact leads_of_followWith (fun hexpand => ⟨links, rfl, ih hexpand⟩) h

/-- Names are followed to the place that they lead to. -/
theorem follow_of_leads {links : Nat} {place reached : Place} {names : List Name}
    (h : disk.Leads links place names reached) : disk.follow links place names = .ok reached := by
  induction h with
  | stop => rw [follow_eq, followWith]
  | above hdirectory _ ih =>
      rw [follow_eq] at ih
      rw [follow_eq, followWith, if_neg (not_not_intro hdirectory), if_pos rfl, ih]
  | link hdirectory habove hlink _ ih =>
      rw [follow_eq, followWith, if_neg (not_not_intro hdirectory), if_neg habove, hlink]
      exact ih
  | free hdirectory habove hnone =>
      rw [follow_eq, followWith, if_neg (not_not_intro hdirectory), if_neg habove, hnone]
      rfl
  | @enter _ _ _ _ _ node hdirectory habove hnode hlink _ ih =>
      rw [follow_eq] at ih
      rw [follow_eq, followWith, if_neg (not_not_intro hdirectory), if_neg habove, hnode]
      cases node with
      | link target => exact absurd rfl (hlink target)
      | file content => exact ih
      | directory => exact ih

/-- A disk follows names as the rules say. -/
theorem follow_eq_ok_iff {links : Nat} {place reached : Place} {names : List Name} :
    disk.follow links place names = .ok reached ↔ disk.Leads links place names reached :=
  ⟨leads_of_follow, follow_of_leads⟩

/-! ## Where a path can end -/

/-- A place that is not a link, and that directories lead to from the top. -/
structure Direct (disk : Disk) (place : Place) : Prop where
  not_link : ∀ target, disk.get? place ≠ some (.link target)
  directory : ∀ {front}, front <+: place → front ≠ place → disk.get? front = some .directory

theorem direct_nil : disk.Direct [] where
  not_link := by simp
  directory := fun h hne => absurd (List.prefix_nil.mp h) hne

/-- Above a direct place there are directories only. -/
theorem Direct.directory_of_prefix_dropLast {place front : Place} (h : disk.Direct place)
    (hne : place ≠ []) (hfront : front <+: place.dropLast) :
    disk.get? front = some .directory := by
  refine h.directory (hfront.trans (List.dropLast_prefix place)) ?_
  rintro rfl
  have hlength := hfront.length_le
  have := List.length_pos_iff.mpr hne
  rw [List.length_dropLast] at hlength
  omega

/-- The way to the directory above is as straight. -/
theorem Direct.dropLast {place : Place} (h : disk.Direct place) : disk.Direct place.dropLast := by
  by_cases hne : place = []
  · subst hne
    exact h
  · exact ⟨by simp [h.directory_of_prefix_dropLast hne List.prefix_rfl],
      fun hfront _ => h.directory_of_prefix_dropLast hne hfront⟩

/-- Above a place with a straight way to it there is a directory. -/
theorem Direct.get?_dropLast {place : Place} (h : disk.Direct place) :
    disk.get? place.dropLast = some .directory := by
  by_cases hne : place = []
  · rw [hne]
    rfl
  · exact h.directory_of_prefix_dropLast hne List.prefix_rfl

/-- The way goes on straight to what stands in a directory, unless that is a link. -/
theorem Direct.child {place : Place} (h : disk.Direct place)
    (hdirectory : disk.get? place = some .directory) {name : Name}
    (hlink : ∀ target, disk.get? (place ++ [name]) ≠ some (.link target)) :
    disk.Direct (place ++ [name]) where
  not_link := hlink
  directory := by
    intro front hfront hne
    rcases List.prefix_concat_iff.mp hfront with heq | hfront
    · exact absurd heq hne
    · by_cases heq : front = place
      · rw [heq]
        exact hdirectory
      · exact h.directory hfront heq

/-- The way to where a link starts is straight. -/
theorem Direct.linkStart {place : Place} (h : disk.Direct place) (target : Path) :
    disk.Direct (linkStart place target) := by
  unfold Disk.linkStart
  split
  · exact direct_nil
  · exact h

/-- A step leads from a direct place to a direct place, and so does a whole path. -/
theorem Leads.direct {links : Nat} {place reached : Place} {names : List Name}
    (h : disk.Leads links place names reached) (hplace : disk.Direct place) :
    disk.Direct reached := by
  induction h with
  | stop => exact hplace
  | above _ _ ih => exact ih hplace.dropLast
  | link _ _ _ _ ih => exact ih (hplace.linkStart _)
  | free hdirectory _ hnone => exact hplace.child hdirectory (by simp [hnone])
  | enter hdirectory _ hnode hlink _ ih =>
      refine ih (hplace.child hdirectory ?_)
      intro target heq
      rw [hnode] at heq
      exact hlink target (Option.some.inj heq)

/-- What comes before the last name of a path leads to a directory. -/
theorem Leads.directory {links : Nat} {place reached : Place} {names : List Name} {last : Name}
    (h : disk.Leads links place (names ++ [last]) reached) :
    ∃ parent, disk.Leads links place names parent ∧ disk.get? parent = some .directory := by
  -- The names before the last one shrink with each rule, and grow by a target at a link.
  generalize hall : names ++ [last] = all at h
  induction h generalizing names with
  | stop => simp at hall
  | @above _ place _ _ hdirectory _ ih =>
      cases names with
      | nil => exact ⟨place, .stop, hdirectory⟩
      | cons name names =>
          obtain ⟨rfl, rfl⟩ := List.cons.inj hall
          obtain ⟨parent, hleads, hparent⟩ := ih rfl
          exact ⟨parent, .above hdirectory hleads, hparent⟩
  | @link _ place _ _ _ _ hdirectory habove hlink _ ih =>
      cases names with
      | nil => exact ⟨place, .stop, hdirectory⟩
      | cons name names =>
          obtain ⟨rfl, rfl⟩ := List.cons.inj hall
          obtain ⟨parent, hleads, hparent⟩ := ih (List.append_assoc _ _ _)
          exact ⟨parent, .link hdirectory habove hlink hleads, hparent⟩
  | @free _ place _ hdirectory _ _ =>
      cases names with
      | nil => exact ⟨place, .stop, hdirectory⟩
      | cons name names => simp at hall
  | @enter _ place _ _ _ _ hdirectory habove hnode hlink _ ih =>
      cases names with
      | nil => exact ⟨place, .stop, hdirectory⟩
      | cons name names =>
          obtain ⟨rfl, rfl⟩ := List.cons.inj hall
          obtain ⟨parent, hleads, hparent⟩ := ih rfl
          exact ⟨parent, .enter hdirectory habove hnode hlink hleads, hparent⟩

/-- One more name leads one step further from a directory, unless a link stands there. -/
theorem Leads.child {links : Nat} {place parent : Place} {names : List Name} {last : Name}
    (h : disk.Leads links place names parent) (hparent : disk.get? parent = some .directory)
    (hlast : last ≠ Name.above)
    (hlink : ∀ target, disk.get? (parent ++ [last]) ≠ some (.link target)) :
    disk.Leads links place (names ++ [last]) (parent ++ [last]) := by
  induction h with
  | @stop _ place =>
      cases hnode : disk.get? (place ++ [last]) with
      | none => exact .free hparent hlast hnode
      | some node =>
          refine .enter hparent hlast hnode ?_ .stop
          rintro target rfl
          exact hlink target hnode
  | above hdirectory _ ih => exact .above hdirectory (ih hparent hlink)
  | link hdirectory habove htarget _ ih =>
      have hleads := ih hparent hlink
      rw [List.append_assoc] at hleads
      exact .link hdirectory habove htarget hleads
  | free _ _ hnone =>
      rw [hnone] at hparent
      cases hparent
  | enter hdirectory habove hnode hother _ ih =>
      exact .enter hdirectory habove hnode hother (ih hparent hlink)

/-- Names lead to one place only. -/
theorem Leads.unique {links : Nat} {place reached other : Place} {names : List Name}
    (h : disk.Leads links place names reached) (h' : disk.Leads links place names other) :
    reached = other :=
  Except.ok.inj ((follow_of_leads h).symm.trans (follow_of_leads h'))

/-- The names of a place that is reached from the top lead downwards. -/
theorem Leads.downwards {links : Nat} {place reached : Place} {names : List Name}
    (h : disk.Leads links place names reached) (hplace : Name.above ∉ place) :
    Name.above ∉ reached := by
  induction h with
  | stop => exact hplace
  | above _ _ ih => exact ih fun hmem => hplace (List.dropLast_subset _ hmem)
  | link _ _ _ _ ih =>
      refine ih ?_
      unfold linkStart
      split
      · exact List.not_mem_nil
      · exact hplace
  | free _ habove _ => simp [hplace, habove.symm]
  | enter _ habove _ _ _ ih => exact ih (by simp [hplace, habove.symm])

/-- Names that lead downwards and meet no link lead where they say. -/
theorem Leads.eq_append {links : Nat} {place reached : Place} {names : List Name}
    (h : disk.Leads links place names reached) (hnames : Name.above ∉ names)
    (hlink : ∀ front, front <+: names →
      ∀ target, disk.get? (place ++ front) ≠ some (.link target)) :
    reached = place ++ names := by
  induction h with
  | stop => rw [List.append_nil]
  | above => exact absurd List.mem_cons_self hnames
  | @link _ _ _ name rest _ _ _ htarget _ _ =>
      exact absurd htarget (hlink [name] (List.prefix_append [name] rest) _)
  | free => rfl
  | @enter _ place _ name rest _ _ _ _ _ _ ih =>
      rw [ih (fun hmem => hnames (List.mem_cons_of_mem _ hmem)), List.append_assoc]
      · rfl
      · intro front hfront target
        rw [List.append_assoc]
        exact hlink (name :: front) (List.cons_prefix_cons.mpr ⟨rfl, hfront⟩) target

/-- A file in a free place or in the place of a file turns no path aside. -/
theorem Leads.put {spot : Place} (hfree : disk.get? spot ≠ some .directory)
    (hlink : ∀ target, disk.get? spot ≠ some (.link target)) (content : Bytes) {links : Nat}
    {place reached : Place} {names : List Name} (h : disk.Leads links place names reached) :
    (disk.put spot (.file content)).Leads links place names reached := by
  have hfile : (disk.put spot (.file content)).get? spot = some (.file content) := by
    refine get?_put_self ?_ _
    rintro rfl
    exact hfree rfl
  have hkeep : ∀ {other}, disk.get? other = some .directory →
      (disk.put spot (.file content)).get? other = some .directory := by
    intro other hother
    rw [get?_put_of_ne (by rintro rfl; exact hfree hother), hother]
  induction h with
  | stop => exact .stop
  | above hdirectory _ ih => exact .above (hkeep hdirectory) ih
  | link hdirectory habove htarget _ ih =>
      refine .link (hkeep hdirectory) habove ?_ ih
      rw [get?_put_of_ne (by rintro rfl; exact hlink _ htarget), htarget]
  | @free _ place name hdirectory habove hnone =>
      -- the free place at the end of the path may be the one that the file now fills
      by_cases heq : place ++ [name] = spot
      · subst heq
        exact .enter (hkeep hdirectory) habove hfile (by simp) .stop
      · refine .free (hkeep hdirectory) habove ?_
        rw [get?_put_of_ne heq, hnone]
  | @enter _ place _ name _ node hdirectory habove hnode hother _ ih =>
      by_cases heq : place ++ [name] = spot
      · subst heq
        exact .enter (hkeep hdirectory) habove hfile (by simp) ih
      · refine .enter (hkeep hdirectory) habove ?_ hother ih
        rw [get?_put_of_ne heq, hnode]

end Disk

end StoryCatalog
