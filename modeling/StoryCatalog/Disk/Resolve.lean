import StoryCatalog.Disk.Access

/-!
# Resolving paths

Resolving a path replaces the links on it by their targets, whether or not its end is there. Links
that lead in a circle stop the resolution: the rest of the path is then taken as it is written, and
if the disk cannot follow the result either, there is no resolved path. Nor is there one when the
disk would have to be asked for a name that holds a null character.
-/

namespace StoryCatalog

namespace Disk

/-- How far a path could be resolved: to the end, up to a circle of links, with all names from the
top, or up to a name that holds a null character. -/
inductive Resolution where
  | place (place : Place)
  | circle (names : List Name)
  | nullCharacter
deriving DecidableEq, Repr

/-- Why a path has no resolved place: its links lead in a circle that ends at this place, or a name
on it holds a null character. -/
inductive ResolveError where
  | circle (place : Place)
  | nullCharacter
deriving DecidableEq, Repr

/-- The error in words. -/
def ResolveError.message : ResolveError → Text
  | .circle place => "Symlink loop from " ++ place.path.toText.quoted
  | .nullCharacter => "embedded null byte"

/-- Resolve names from a place. A link is handed on, with its own place, where its target starts and
the names of the target. -/
def resolveWith (disk : Disk) (expand : Place → Place → List Name → Resolution) (place : Place) :
    List Name → Resolution
  | [] => .place place
  | name :: rest =>
      if name = Name.above then resolveWith disk expand place.dropLast rest
      else
        match disk.get? (place ++ [name]) with
        | some (.link target) =>
            let target := Path.ofText target
            match expand (place ++ [name]) (linkStart place target) target.names with
            | .place reached => resolveWith disk expand reached rest
            | .circle names => .circle (names ++ rest)
            | .nullCharacter => .nullCharacter
        | some _ => resolveWith disk expand (place ++ [name]) rest
        | none =>
            if name.holdsNull then .nullCharacter
            else resolveWith disk expand (place ++ [name]) rest

/-- Resolve names from a place, inside the targets of these links and through at most this many more
of them. -/
def resolveInside (disk : Disk) : Nat → List Place → Place → List Name → Resolution
  | 0, _ => disk.resolveWith fun link _ _ => .circle link
  | links + 1, inside => disk.resolveWith fun link start names =>
      if inside.contains link then .circle link
      else resolveInside disk links (link :: inside) start names

/-- Names without `..`, each of which takes back the name before it. -/
def simplify (names : List Name) : Place :=
  names.foldl (fun place name => if name = Name.above then place.dropLast else place ++ [name]) []

/-- Resolve a path. As many links can be nested as the disk has entries. -/
def resolve (disk : Disk) (path : Path) : Except ResolveError Place :=
  match disk.resolveInside disk.entries.length [] [] path.names with
  | .place place => .ok place
  | .nullCharacter => .error .nullCharacter
  | .circle names =>
      let place := simplify names
      if place.any Name.holdsNull then .error .nullCharacter
      else if disk.locate place.path matches .error .tooManyLinks then .error (.circle place)
      else .ok place

end Disk

end StoryCatalog
