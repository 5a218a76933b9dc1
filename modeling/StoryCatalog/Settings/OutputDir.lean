import StoryCatalog.Disk.Resolve
import StoryCatalog.Settings.Basic

/-!
# The configured output directory

The output directory that settings name is a relative path that stays inside the repository, also
after its links are followed.
-/

namespace StoryCatalog

/-- Why a configured output directory is refused. -/
inductive OutputDirError where
  | empty
  | notRelative
  | escapes (outputDir : Text)
  | unresolved (error : Disk.ResolveError)
deriving DecidableEq, Repr

/-- The error in words. -/
def OutputDirError.message : OutputDirError → Text
  | .empty => "output_dir must be a non-empty relative path"
  | .notRelative => "output_dir must be a relative path within the repo root"
  | .escapes outputDir => "output_dir '" ++ outputDir ++ "' escapes the repository root"
  | .unresolved error => error.message

namespace Disk

/-- Find the output directory with this name in the repository at a place. -/
def resolveOutputDir (disk : Disk) (root : Place) (outputDir : Text) :
    Except OutputDirError Place :=
  let path := Path.ofText outputDir
  if outputDir.isEmpty then .error .empty
  else if outputDir.head? = some 0x7E || path.isAbsolute then .error .notRelative
  else
    match disk.resolve (root.path.join path) with
    | .error e => .error (.unresolved e)
    | .ok place =>
        if root.isPrefixOf place then .ok place else .error (.escapes outputDir)

end Disk

end StoryCatalog
