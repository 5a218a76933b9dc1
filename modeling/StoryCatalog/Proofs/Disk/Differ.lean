import StoryCatalog.Proofs.Disk.Below

/-!
# Disks that differ in the content of one file

What a file holds decides nothing about where paths lead (`DiffersAt.locate_eq`) or which
directories can be made (`DiffersAt.makeDirectories`). So two disks that differ in one file still
differ in this file alone after the same directories have been made on both, or the same error has
come up.
-/

namespace StoryCatalog

namespace Disk

/-- Two disks have the same nodes, but for the content of a file in one place. -/
structure DiffersAt (disk other : Disk) (spot : Place) : Prop where
  agree : ∀ {place}, place ≠ spot → disk.get? place = other.get? place
  file : ∃ content, disk.get? spot = some (.file content)
  otherFile : ∃ content, other.get? spot = some (.file content)

variable {disk other : Disk} {spot : Place}

/-- Both disks have the same node in a place, or each has a file there. -/
theorem DiffersAt.cases (h : disk.DiffersAt other spot) (place : Place) :
    disk.get? place = other.get? place ∨
      (∃ content, disk.get? place = some (.file content)) ∧
        ∃ content, other.get? place = some (.file content) := by
  by_cases hplace : place = spot
  · subst hplace
    exact .inr ⟨h.file, h.otherFile⟩
  · exact .inl (h.agree hplace)

/-- Two disks that differ at one file have the same directories. -/
theorem DiffersAt.directory_iff (h : disk.DiffersAt other spot) (place : Place) :
    disk.get? place = some .directory ↔ other.get? place = some .directory := by
  rcases h.cases place with heq | ⟨⟨_, hfile⟩, _, hother⟩
  · rw [heq]
  · simp [hfile, hother]

/-- Two disks that differ at one file have something at the same places. -/
theorem DiffersAt.isSome_eq (h : disk.DiffersAt other spot) (place : Place) :
    (disk.get? place).isSome = (other.get? place).isSome := by
  rcases h.cases place with heq | ⟨⟨_, hfile⟩, _, hother⟩
  · rw [heq]
  · rw [hfile, hother]
    rfl

/-! ## Where paths lead -/

theorem DiffersAt.followWith_eq (h : disk.DiffersAt other spot)
    (expand : Place → List Name → Except DiskError Place) (place : Place) (names : List Name) :
    disk.followWith expand place names = other.followWith expand place names := by
  induction names generalizing place with
  | nil => rfl
  | cons name rest ih =>
      rw [followWith, followWith, ih, ih]
      simp only [ne_eq, h.directory_iff place]
      rcases h.cases (place ++ [name]) with heq | ⟨⟨_, hfile⟩, _, hother⟩
      · rw [heq]
      · rw [hfile, hother]

/-- Two disks that differ at one file follow every path alike. -/
theorem DiffersAt.follow_eq (h : disk.DiffersAt other spot) (links : Nat) :
    disk.follow links = other.follow links := by
  induction links with
  | zero =>
      funext place names
      exact h.followWith_eq _ place names
  | succ links ih =>
      funext place names
      rw [follow, follow, ih]
      exact h.followWith_eq _ place names

/-- Two disks that differ at one file locate every path at the same place. -/
theorem DiffersAt.locate_eq (h : disk.DiffersAt other spot) (path : Path) :
    disk.locate path = other.locate path := by
  rw [locate, locate, h.follow_eq]

theorem DiffersAt.locateLast_eq (h : disk.DiffersAt other spot) (path : Path) :
    disk.locateLast path = other.locateLast path := by
  rw [locateLast, locateLast, h.locate_eq]
  congr 1
  funext parent
  rcases h.cases parent with heq | ⟨⟨_, hfile⟩, _, hother⟩
  · rw [heq]
  · rw [hfile, hother]

/-- Two disks that differ at one file take the same paths for directories. -/
theorem DiffersAt.isDirectory_eq (h : disk.DiffersAt other spot) (path : Path) :
    disk.isDirectory path = other.isDirectory path := by
  rw [isDirectory, isDirectory, node?, node?, h.locate_eq]
  cases other.locate path with
  | error e => rfl
  | ok place =>
      dsimp only
      rcases h.cases place with heq | ⟨⟨_, hfile⟩, _, hother⟩
      · rw [heq]
      · rw [hfile, hother]

/-- A path that does not lead to the file in question leads to the same content. -/
theorem DiffersAt.content?_eq (h : disk.DiffersAt other spot) {path : Path}
    (hpath : disk.locate path ≠ .ok spot) : disk.content? path = other.content? path := by
  rw [content?, content?, node?, node?, ← h.locate_eq]
  cases hlocate : disk.locate path with
  | error e => rfl
  | ok place =>
      have hplace : place ≠ spot := by
        rintro rfl
        exact hpath hlocate
      dsimp only
      rw [h.agree hplace]

/-! ## Making directories -/

/-- A directory in a free place leaves the difference as it is. -/
theorem DiffersAt.put (h : disk.DiffersAt other spot) {place : Place}
    (hfree : disk.get? place = none) :
    (disk.put place .directory).DiffersAt (other.put place .directory) spot := by
  have hne : spot ≠ place := by
    rintro rfl
    obtain ⟨_, hfile⟩ := h.file
    rw [hfree] at hfile
    cases hfile
  have hnil : place ≠ [] := by
    rintro rfl
    cases hfree
  refine ⟨?_, ?_, ?_⟩
  · intro asked hasked
    by_cases heq : asked = place
    · rw [heq, get?_put_self hnil, get?_put_self hnil]
    · rw [get?_put_of_ne heq, get?_put_of_ne heq, h.agree hasked]
  · rw [get?_put_of_ne hne]
    exact h.file
  · rw [get?_put_of_ne hne]
    exact h.otherFile

/-- Two attempts on disks that differ in one place end in the same way: with disks that differ in
this place, or with the same error. -/
inductive SameOutcome {ε : Type} (spot : Place) : Except ε Disk → Except ε Disk → Prop where
  | ok {made made' : Disk} : made.DiffersAt made' spot → SameOutcome spot (.ok made) (.ok made')
  | error (e : ε) : SameOutcome spot (.error e) (.error e)

/-- Making a directory keeps two disks different at that file only. -/
theorem DiffersAt.makeDirectory (h : disk.DiffersAt other spot) (path : Path) :
    SameOutcome spot (disk.makeDirectory path) (other.makeDirectory path) := by
  rw [Disk.makeDirectory, Disk.makeDirectory, h.locateLast_eq]
  cases other.locateLast path with
  | error e => exact .error e
  | ok place =>
      show SameOutcome spot
        (if (disk.get? place).isSome = true then .error DiskError.alreadyThere
          else .ok (disk.put place .directory))
        (if (other.get? place).isSome = true then .error DiskError.alreadyThere
          else .ok (other.put place .directory))
      rw [← h.isSome_eq]
      split
      · exact .error _
      · rename_i hfree
        rw [Bool.not_eq_true, Option.isSome_eq_false_iff, Option.isNone_iff_eq_none] at hfree
        exact .ok (h.put hfree)

/-- Making missing parents keeps two disks different at that file only. -/
theorem DiffersAt.makeDirectoriesUp (h : disk.DiffersAt other spot) (names : List Name) :
    SameOutcome spot (disk.makeDirectoriesUp names) (other.makeDirectoriesUp names) := by
  induction names with
  | nil => exact .ok h
  | cons name above ih =>
      rw [Disk.makeDirectoriesUp, Disk.makeDirectoriesUp]
      generalize (⟨.top, (name :: above).reverse⟩ : Path) = path
      -- an error is settled alike: the path leads to a directory on both disks or on neither
      have hsettle : ∀ {first second : Disk}, first.DiffersAt second spot → ∀ e : DiskError,
          SameOutcome spot (if first.isDirectory path = true then .ok first else .error (e, path))
            (if second.isDirectory path = true then .ok second else .error (e, path)) := by
        intro first second hdiffers e
        rw [← hdiffers.isDirectory_eq]
        split
        · exact .ok hdiffers
        · exact .error _
      have hfirst := h.makeDirectory path
      generalize disk.makeDirectory path = found, other.makeDirectory path = found' at hfirst
      cases hfirst with
      | ok hmade => exact .ok hmade
      | error e =>
          cases e with
          | missing =>
              generalize disk.makeDirectoriesUp above = ready,
                other.makeDirectoriesUp above = ready' at ih
              cases ih with
              | error e => exact .error e
              | @ok ready ready' hready =>
                  dsimp only [bind, Except.bind]
                  have hsecond := hready.makeDirectory path
                  generalize ready.makeDirectory path = found, ready'.makeDirectory path = found'
                    at hsecond
                  cases hsecond with
                  | ok hmade => exact .ok hmade
                  | error e => exact hsettle hready e
          | alreadyThere => exact hsettle h _
          | notDirectory => exact hsettle h _
          | isDirectory => exact hsettle h _
          | tooManyLinks => exact hsettle h _

/-- Making a directory with its parents keeps two disks different at that file only. -/
theorem DiffersAt.makeDirectories (h : disk.DiffersAt other spot) (path : Path) :
    SameOutcome spot (disk.makeDirectories path) (other.makeDirectories path) :=
  h.makeDirectoriesUp _

end Disk

end StoryCatalog
