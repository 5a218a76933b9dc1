import StoryCatalog.Text.Basic

/-!
# Paths

A path is a list of names, read from the top of the disk or from a directory that is known from
elsewhere. Empty names and `.` say nothing and are dropped; `..` is kept, because what it means
depends on the links of a disk.
-/

namespace StoryCatalog

/-- The name of a file or directory. -/
abbrev Name := Text

/-- The name that leads back to the directory above. -/
def Name.above : Name := [0x2E, 0x2E]

/-- The name holds a null character. Nothing can have such a name, and a disk cannot even be asked
for it. -/
def Name.holdsNull (name : Name) : Bool :=
  name.contains 0

/-- The suffix of a name: its last point and what follows. A point at either end of the name does
not start a suffix. -/
def Name.suffix (name : Name) : Text :=
  let tail := name.reverse.takeWhile (· ≠ 0x2E)
  if !tail.isEmpty && tail.length + 1 < name.length then 0x2E :: tail.reverse else []

/-- Where a path starts: in some directory, at the top, or at the top written with two slashes,
which stays apart from the other. -/
inductive Anchor where
  | here
  | top
  | doubleTop
deriving DecidableEq, Repr

/-- A path. -/
structure Path where
  anchor : Anchor
  names : List Name
deriving DecidableEq, Repr

/-- Names joined by slashes. -/
def joinNames (names : List Name) : Text :=
  Text.join [0x2F] names

namespace Path

/-- The anchor that a text starts with: three slashes or more are as good as one. -/
def anchorOf (t : Text) : Anchor :=
  match (t.takeWhile (· = 0x2F)).length with
  | 0 => .here
  | 2 => .doubleTop
  | _ => .top

/-- A name that leads somewhere. -/
def isStep (name : Name) : Bool :=
  !name.isEmpty && name != [0x2E]

/-- The path that a text stands for. -/
def ofText (t : Text) : Path :=
  ⟨anchorOf t, (t.split 0x2F).filter isStep⟩

/-- How the anchor is written. -/
def anchorText : Anchor → Text
  | .here => []
  | .top => "/"
  | .doubleTop => "//"

/-- The path in one text. The directory itself is a single point. -/
def toText (p : Path) : Text :=
  if p.anchor = .here && p.names.isEmpty then "." else anchorText p.anchor ++ joinNames p.names

/-- The path starts at the top. -/
def isAbsolute (p : Path) : Bool :=
  p.anchor ≠ .here

/-- A path read from another one. -/
def join (p q : Path) : Path :=
  if q.isAbsolute then q else ⟨p.anchor, p.names ++ q.names⟩

/-- One name further. -/
def child (p : Path) (name : Name) : Path :=
  ⟨p.anchor, p.names ++ [name]⟩

/-- The names that lead from one path to another below it. -/
def below? (p root : Path) : Option (List Name) :=
  if p.anchor = root.anchor then root.names.isPrefixOf? p.names else none

/-- The first name on the way from a root to a path below it; empty when the path is the root or
lies elsewhere. -/
def firstBelow (p root : Path) : Name :=
  match p.below? root with
  | some (name :: _) => name
  | _ => []

/-- The path with a leading `~` replaced by the home directory. Only one's own home is known. -/
def expandHome (p home : Path) : Option Path :=
  match p.anchor, p.names with
  | .here, (0x7E :: user) :: rest =>
      if user.isEmpty then some ⟨home.anchor, home.names ++ rest⟩ else none
  | _, _ => some p

end Path

end StoryCatalog
