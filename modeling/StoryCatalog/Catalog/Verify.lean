import StoryCatalog.Catalog.Generate
import StoryCatalog.Contract.Validation

/-!
# Verifying artifacts

Artifacts are reproducible when generating them again gives the same files. They are generated into
an empty directory of their own, and the files of both directories are compared byte by byte. The
disk is left as it was.
-/

namespace StoryCatalog

/-- How artifacts differ from those generated anew: files that differ, files that are not generated,
and files that would be generated as well. -/
structure Verification where
  mismatches : List Text
  missing : List Text
  extra : List Text
deriving DecidableEq, Repr

namespace Verification

/-- Nothing differs. -/
def ok (v : Verification) : Bool :=
  v.mismatches.isEmpty && v.missing.isEmpty && v.extra.isEmpty

/-- Compare files by name: those at hand with those generated anew. -/
def compare (present generated : List (Text × Bytes)) : Verification :=
  let sorted (files : List (Text × Bytes)) : List Text := (files.map Prod.fst).mergeSort Text.le
  { mismatches := sorted (present.filter fun (name, content) =>
      match generated.lookup name with
      | some other => content ≠ other
      | none => false)
    missing := sorted (present.filter fun file => (generated.lookup file.1).isNone)
    extra := sorted (generated.filter fun file => (present.lookup file.1).isNone) }

/-- What is reported of artifacts that differ. -/
def logEntry (v : Verification) : LogEntry where
  level := .info
  reporter := .verification
  message := "Artifacts differ: " ++ Text.ofNat v.missing.length ++ " missing, "
    ++ Text.ofNat v.extra.length ++ " extra, " ++ Text.ofNat v.mismatches.length ++ " mismatched"

end Verification

namespace Disk

/-- The files below the directory that a path leads to, with their paths from there. -/
def listing (disk : Disk) (path : Path) : List (Text × Bytes) :=
  match disk.locate path with
  | .ok place => (disk.filesBelow place).map fun (names, content) => (joinNames names, content)
  | .error _ => []

/-- A path must lead to a directory with artifacts. -/
def requireArtifacts (disk : Disk) (path : Path) : Except Failure Unit :=
  match disk.node? path with
  | none => .error (.artifactsAbsent path)
  | some .directory => .ok ()
  | some _ => .error (.artifactsNotDirectory path)

/-- Verify the artifacts at a path of the repository at a place. The scratch path leads to the
directory that is generated into. -/
def verify [SourceAccess] (disk : Disk) (root : Place) (artifacts scratch : Path)
    (settings : Option Settings) : Run Verification :=
  let compared :=
    (Run.look disk (disk.requireArtifacts artifacts)).andThen fun disk _ =>
    (disk.generate root (some scratch) settings).andThen fun disk _ =>
    let found := Verification.compare (disk.listing artifacts) (disk.listing scratch)
    ⟨disk, if found.ok then [] else [found.logEntry], .ok found⟩
  { compared with disk := disk }

/-- What is known of the artifacts in the directory at a path. -/
def artifactsAt (disk : Disk) (path : Path) : Validation.Artifacts :=
  match disk.node? path with
  | none => .absent
  | some .directory =>
      .files (disk.content? (path.child storiesFile)) (disk.content? (path.child summaryFile))
  | some _ => .notDirectory

/-- Validate the artifacts in the directory at a path. -/
def validate (disk : Disk) (strict : Bool) (path : Path) : Report :=
  Validation.validate strict path.toText (path.child storiesFile).toText
    (path.child summaryFile).toText (disk.artifactsAt path)

end Disk

end StoryCatalog
