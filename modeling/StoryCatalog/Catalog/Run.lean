import StoryCatalog.Catalog.Basic
import StoryCatalog.Settings.OutputDir

/-!
# Runs over a disk

A run starts from a disk and leaves another one, with a log and either a result or the failure that
ended it. What was written before a failure stays.
-/

namespace StoryCatalog

/-- What ends a run before its end. -/
inductive Failure where
  | settings (error : Settings.LoadError)
  | outputDir (error : OutputDirError)
  | disk (error : DiskError) (path : Path)
  | ignoreFile (fault : IgnoreFault)
  | extraction (error : ExtractError)
  | unwritable (error : Json.WriteError)
  | unresolved (error : Disk.ResolveError)
  | homeUnknown
  | artifactsAbsent (path : Path)
  | artifactsNotDirectory (path : Path)
deriving Repr

namespace Failure

/-- A failure in words. -/
def message : Failure → Text
  | .settings error => error.message
  | .outputDir error => error.message
  | .disk error path => error.message path
  | .ignoreFile fault => fault.message
  | .extraction error => error.message
  | .unwritable error => error.message
  | .unresolved error => error.message
  | .homeUnknown => "Could not determine home directory."
  | .artifactsAbsent path => "Artifacts directory does not exist: " ++ path.toText
  | .artifactsNotDirectory path => "Artifacts path is not a directory: " ++ path.toText

/-- The settings are at fault. Bytes that are no text, integers with too many digits, values too
deep within each other, and a directory whose path cannot be resolved do not count as such a
fault. -/
def isOfSettings : Failure → Bool
  | .settings (.undecodable _) => false
  | .settings (.tooLong _) => false
  | .settings .tooDeep => false
  | .settings _ => true
  | .outputDir (.unresolved _) => false
  | .outputDir _ => true
  | _ => false

end Failure

/-- A run that has come to an end. -/
structure Run (α : Type) where
  disk : Disk
  log : Log
  result : Except Failure α

namespace Run

variable {α β : Type}

/-- A run that does nothing. -/
def pure (disk : Disk) (value : α) : Run α :=
  ⟨disk, [], .ok value⟩

/-- A run that fails at once. -/
def fail (disk : Disk) (failure : Failure) : Run α :=
  ⟨disk, [], .error failure⟩

/-- A run that only looks at a disk. -/
def look (disk : Disk) (result : Except Failure α) : Run α :=
  ⟨disk, [], result⟩

/-- A run that changes the disk. -/
def change (disk : Disk) : Except Failure Disk → Run Unit
  | .ok changed => ⟨changed, [], .ok ()⟩
  | .error failure => ⟨disk, [], .error failure⟩

/-- Go on from the disk that a run has left, unless it has failed. -/
def andThen (run : Run α) (next : Disk → α → Run β) : Run β :=
  match run.result with
  | .error failure => ⟨run.disk, run.log, .error failure⟩
  | .ok value =>
      let after := next run.disk value
      ⟨after.disk, run.log ++ after.log, after.result⟩

/-- Add an entry to the log of a run that has not failed. -/
def report (run : Run α) (entry : α → LogEntry) : Run α :=
  match run.result with
  | .error _ => run
  | .ok value => { run with log := run.log ++ [entry value] }

end Run

/-- An error of a disk as a failure about a path. -/
def Failure.ofDisk {α : Type} (path : Path) : Except DiskError α → Except Failure α
  | .ok value => .ok value
  | .error e => .error (.disk e path)

namespace Disk

/-- The settings of the repository at a place. -/
def loadSettings (disk : Disk) (root : Place) : Except Failure Settings :=
  let path := root.path.child Settings.fileName
  match Settings.load path.toText (disk.content? path) with
  | .ok settings => .ok settings
  | .error e => .error (.settings e)

end Disk

end StoryCatalog
