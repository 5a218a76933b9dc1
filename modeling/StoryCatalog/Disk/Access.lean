import StoryCatalog.Disk.Basic

/-!
# Reading and writing through paths

A path is followed name by name. Every name is looked up in a directory, a link is replaced by its
target, and only the last name may lead to a place that is still free. Paths are read from the top.
-/

namespace StoryCatalog

namespace Disk

/-- Where the target of a link in a directory starts. -/
def linkStart (directory : Place) (target : Path) : Place :=
  if target.isAbsolute then [] else directory

/-- Follow names from a place. A link is handed on, with where its target starts and the names that
then remain. -/
def followWith (disk : Disk) (expand : Place → List Name → Except DiskError Place) (place : Place) :
    List Name → Except DiskError Place
  | [] => .ok place
  | name :: rest =>
      if disk.get? place ≠ some .directory then .error .notDirectory
      else if name = Name.above then followWith disk expand place.dropLast rest
      else
        match disk.get? (place ++ [name]) with
        | some (.link target) =>
            let target := Path.ofText target
            expand (linkStart place target) (target.names ++ rest)
        | none => if rest.isEmpty then .ok (place ++ [name]) else .error .missing
        | some _ => followWith disk expand (place ++ [name]) rest

/-- Follow names from a place, through at most this many links. -/
def follow (disk : Disk) : Nat → Place → List Name → Except DiskError Place
  | 0 => disk.followWith fun _ _ => .error .tooManyLinks
  | links + 1 => disk.followWith (follow disk links)

/-- How many links one path may pass. -/
def linkLimit : Nat := 40

/-- The place that a path leads to. -/
def locate (disk : Disk) (path : Path) : Except DiskError Place :=
  disk.follow linkLimit [] path.names

/-- What a path leads to, if anything. -/
def node? (disk : Disk) (path : Path) : Option Node :=
  match disk.locate path with
  | .ok place => disk.get? place
  | .error _ => none

/-- The path leads to a directory. -/
def isDirectory (disk : Disk) (path : Path) : Bool :=
  match disk.node? path with
  | some .directory => true
  | _ => false

/-- The content of the file that a path leads to, if it leads to a file. -/
def content? (disk : Disk) (path : Path) : Option Bytes :=
  match disk.node? path with
  | some (.file content) => some content
  | _ => none

/-- Read the file that a path leads to. -/
def read (disk : Disk) (path : Path) : Except DiskError Bytes := do
  match disk.get? (← disk.locate path) with
  | some (.file content) => .ok content
  | some .directory => .error .isDirectory
  | _ => .error .missing

/-- Write the file that a path leads to; it need not be there. -/
def write (disk : Disk) (path : Path) (content : Bytes) : Except DiskError Disk := do
  let place ← disk.locate path
  match disk.get? place with
  | some .directory => .error .isDirectory
  | _ => .ok (disk.put place (.file content))

/-- The place of the last name of a path. A link there is not followed. -/
def locateLast (disk : Disk) (path : Path) : Except DiskError Place := do
  let parent ← disk.locate ⟨path.anchor, path.names.dropLast⟩
  match disk.get? parent, path.names.getLast? with
  | some .directory, some name =>
      .ok (if name = Name.above then parent.dropLast else parent ++ [name])
  | some .directory, none => .ok parent
  | none, _ => .error .missing
  | _, _ => .error .notDirectory

/-- Make one directory. Its parent must be there, and its own place free. -/
def makeDirectory (disk : Disk) (path : Path) : Except DiskError Disk := do
  let place ← disk.locateLast path
  if (disk.get? place).isSome then .error .alreadyThere else .ok (disk.put place .directory)

/-- Make the directory with these names, the last one first, and the missing ones above it. A
directory that is already there is left alone. An error comes with the path that it is about. -/
def makeDirectoriesUp (disk : Disk) : List Name → Except (DiskError × Path) Disk
  | [] => .ok disk
  | name :: above =>
      let path : Path := ⟨.top, (name :: above).reverse⟩
      let settle (disk : Disk) : DiskError → Except (DiskError × Path) Disk := fun e =>
        if disk.isDirectory path then .ok disk else .error (e, path)
      match disk.makeDirectory path with
      | .ok made => .ok made
      | .error .missing => do
          let ready ← makeDirectoriesUp disk above
          match ready.makeDirectory path with
          | .ok made => .ok made
          | .error e => settle ready e
      | .error e => settle disk e

/-- Make a directory and the missing ones above it. -/
def makeDirectories (disk : Disk) (path : Path) : Except (DiskError × Path) Disk :=
  disk.makeDirectoriesUp path.names.reverse

/-- Remove what a path leads to, with everything below it. A link is removed itself. -/
def remove (disk : Disk) (path : Path) : Except DiskError Disk := do
  let place ← disk.locateLast path
  if (disk.get? place).isSome then .ok (disk.removeAt place) else .error .missing

/-- Put a link that has this target at a path. -/
def makeLink (disk : Disk) (path : Path) (target : Text) : Except DiskError Disk := do
  let place ← disk.locateLast path
  if (disk.get? place).isSome then .error .alreadyThere
  else .ok (disk.put place (.link target))

/-- The files below a directory, each with the names that lead to it. A link to a file is a file. -/
def filesBelow (disk : Disk) (place : Place) : List (List Name × Bytes) :=
  (disk.below place).filterMap fun (names, _) =>
    (disk.content? (Place.path (place ++ names))).map (names, ·)

end Disk

end StoryCatalog
