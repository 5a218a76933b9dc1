import StoryCatalog.Disk.Path
import StoryCatalog.Text.Quoted
import StoryCatalog.Text.Utf8

/-!
# Disks

A disk holds files, links and directories at places. A place is the list of names that leads to it
from the top without passing a link; a path may pass links and is followed to a place first.
-/

namespace StoryCatalog

/-- What stands at a place. -/
inductive Node where
  | file (content : Bytes)
  | link (target : Text)
  | directory
deriving DecidableEq, Repr

/-- A place of a disk: names from the top. -/
abbrev Place := List Name

/-- The path that leads straight to a place. -/
def Place.path (place : Place) : Path :=
  ⟨.top, place⟩

/-- Why the disk refuses an operation. -/
inductive DiskError where
  | missing
  | alreadyThere
  | notDirectory
  | isDirectory
  | tooManyLinks
deriving DecidableEq, Repr

namespace DiskError

/-- The number of an error. -/
def number : DiskError → Nat
  | .missing => 2
  | .alreadyThere => 17
  | .notDirectory => 20
  | .isDirectory => 21
  | .tooManyLinks => 40

/-- An error in words. -/
def words : DiskError → String
  | .missing => "No such file or directory"
  | .alreadyThere => "File exists"
  | .notDirectory => "Not a directory"
  | .isDirectory => "Is a directory"
  | .tooManyLinks => "Too many levels of symbolic links"

/-- An error about a path. -/
def message (e : DiskError) (path : Path) : Text :=
  "[Errno " ++ Text.ofNat e.number ++ "] " ++ e.words ++ ": " ++ path.toText.quoted

end DiskError

/-- The nodes of a disk by their places. No place occurs twice. -/
structure Disk where
  entries : List (Place × Node)
  distinct : (entries.map Prod.fst).Nodup
deriving Repr

namespace Disk

/-- The disk that holds nothing but its top. -/
def empty : Disk :=
  ⟨[], List.nodup_nil⟩

/-- What stands at a place. The top is a directory. -/
def get? (disk : Disk) (place : Place) : Option Node :=
  if place.isEmpty then some .directory else disk.entries.lookup place

/-- Set the node at a place in a list of entries. -/
def setEntry (place : Place) (node : Node) : List (Place × Node) → List (Place × Node)
  | [] => [(place, node)]
  | entry :: rest =>
      if entry.1 = place then (place, node) :: rest else entry :: setEntry place node rest

theorem mem_setEntry_keys {place p : Place} {node : Node} {entries : List (Place × Node)}
    (h : p ∈ (setEntry place node entries).map Prod.fst) :
    p = place ∨ p ∈ entries.map Prod.fst := by
  induction entries with
  | nil => simpa [setEntry] using h
  | cons entry rest ih =>
      unfold setEntry at h
      split at h
      · simp only [List.map_cons, List.mem_cons] at h ⊢
        exact h.elim Or.inl fun h => .inr (.inr h)
      · simp only [List.map_cons, List.mem_cons] at h ⊢
        rcases h with h | h
        · exact .inr (.inl h)
        · exact (ih h).elim Or.inl fun h => .inr (.inr h)

theorem nodup_setEntry {place : Place} {node : Node} {entries : List (Place × Node)}
    (h : (entries.map Prod.fst).Nodup) : ((setEntry place node entries).map Prod.fst).Nodup := by
  induction entries with
  | nil => simp [setEntry]
  | cons entry rest ih =>
      simp only [List.map_cons, List.nodup_cons] at h
      unfold setEntry
      split
      · rename_i heq
        simp only [List.map_cons, List.nodup_cons]
        exact ⟨heq ▸ h.1, h.2⟩
      · rename_i hne
        simp only [List.map_cons, List.nodup_cons]
        exact ⟨fun hmem => (mem_setEntry_keys hmem).elim hne h.1, ih h.2⟩

/-- Set the node at a place. -/
def put (disk : Disk) (place : Place) (node : Node) : Disk :=
  ⟨setEntry place node disk.entries, nodup_setEntry disk.distinct⟩

/-- Remove a place and everything below it. -/
def removeAt (disk : Disk) (place : Place) : Disk where
  entries := disk.entries.filter fun entry => !place.isPrefixOf entry.1
  distinct := List.Nodup.sublist (List.Sublist.map _ List.filter_sublist) disk.distinct

/-- The nodes below a place, each with the names that lead to it from there. -/
def below (disk : Disk) (place : Place) : List (List Name × Node) :=
  disk.entries.filterMap fun (other, node) =>
    match place.isPrefixOf? other with
    | some [] | none => none
    | some names => some (names, node)

end Disk

end StoryCatalog
