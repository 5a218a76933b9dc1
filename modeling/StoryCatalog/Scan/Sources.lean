import StoryCatalog.Disk.Access
import StoryCatalog.Scan.Glob
import StoryCatalog.Scan.Ignore
import StoryCatalog.Text.LowerCase

/-!
# Source files of a repository

The files below the root of a repository that have a wanted suffix, do not lie in the output
directory, are not ignored, and pass the globs. Links are left out. The files come in ascending
order of their paths.
-/

namespace StoryCatalog

/-- Which files of a repository are sources. -/
structure Selection where
  /-- The suffixes of sources, in any case. -/
  extensions : List Text
  /-- The name below the root that is left out; empty for none. -/
  outputName : Name
  /-- Globs of which a source matches one, if there are any. -/
  included : List Text
  /-- Globs of which a source matches none. -/
  excluded : List Text
  /-- Ignore files below the root count, too. -/
  nestedIgnore : Bool
deriving DecidableEq, Repr

/-- A source file: its path from the root, and its bytes. -/
structure Source where
  names : List Name
  content : Bytes
deriving DecidableEq, Repr

/-- The path of a source. -/
def Source.path (source : Source) : Text :=
  joinNames source.names

/-- What the system answers when sources are opened to be read. It may refuse one, for its
permissions or for a fault of the device, and says why in words of its own. -/
class SourceAccess where
  /-- The words with which the source under these names, from the root, is refused. -/
  refusal? : List Name → Option Text

namespace SourceAccess

/-- The access under which every source opens. -/
scoped instance free : SourceAccess where
  refusal? _ := none

end SourceAccess

/-- An ignore file: the directory that it stands in, from the root, and its rules. -/
structure IgnoreFile where
  folder : List Name
  rules : List IgnoreRule
deriving DecidableEq, Repr

/-- An ignore file speaks only of what lies below its directory. -/
def IgnoreFile.ignores (file : IgnoreFile) (names : List Name) : Bool :=
  match file.folder.isPrefixOf? names with
  | some inner => rulesIgnore file.rules (joinNames inner)
  | none => false

/-- The name of ignore files. -/
def ignoreFileName : Name := Text.ofString ".gitignore"

namespace Disk

/-- The content of the ignore files that count, each with its directory. Below the root, links are
passed over. -/
def ignoreContents (disk : Disk) (root : Place) (nested : Bool) : List (List Name × Bytes) :=
  if nested then
    let found := (disk.below root).filterMap fun (names, node) =>
      match node with
      | .file content =>
          if names.getLast? = some ignoreFileName then some (names.dropLast, content) else none
      | _ => none
    found.mergeSort fun a b => Text.le (joinNames (a.1 ++ [ignoreFileName]))
      (joinNames (b.1 ++ [ignoreFileName]))
  else
    match disk.content? (root.path.child ignoreFileName) with
    | some content => [([], content)]
    | none => []

/-- The ignore files that count. -/
def ignoreFiles (disk : Disk) (root : Place) (nested : Bool) :
    Except IgnoreFault (List IgnoreFile) :=
  (disk.ignoreContents root nested).mapM fun (folder, content) => do
    return ⟨folder, ← ignoreRules content⟩

end Disk

namespace Selection

/-- A file with this path is wanted for its suffix. -/
def hasExtension (selection : Selection) (names : List Name) : Bool :=
  (selection.extensions.map Text.toLower).contains (names.getLastD []).suffix.toLower

/-- A file with this path is not left out. -/
def admits (selection : Selection) (ignoring : List IgnoreFile) (names : List Name) : Bool :=
  let path := joinNames names
  (selection.outputName.isEmpty || names.head? ≠ some selection.outputName)
    && !ignoring.any (·.ignores names)
    && (selection.included.isEmpty || selection.included.any (globMatches · path))
    && !selection.excluded.any (globMatches · path)

end Selection

/-- The order of sources by their paths. -/
def Source.le (a b : Source) : Bool :=
  Text.le a.path b.path

/-- The sources of the repository at a place. -/
def Disk.sources (disk : Disk) (root : Place) (selection : Selection) :
    Except IgnoreFault (List Source) := do
  let ignoring ← disk.ignoreFiles root selection.nestedIgnore
  let found := (disk.below root).filterMap fun (names, node) =>
    match node with
    | .file content =>
        if selection.hasExtension names && selection.admits ignoring names then
          some (Source.mk names content)
        else none
    | _ => none
  return found.mergeSort Source.le

end StoryCatalog
