import StoryCatalog.Catalog.Verify
import StoryCatalog.CommandLine.Command
import StoryCatalog.Report.Window

/-!
# The program

What the program does with a command line: it runs a task over a disk and answers with what it
prints, what it complains about and an exit code. A failure that is not foreseen ends it without an
exit code.
-/

namespace StoryCatalog

namespace CommandLine

/-- Where the program is run: the working directory, the home directory of the user, and a path that
is free for files of its own. -/
structure Surroundings where
  workingDirectory : Place
  home : Path
  scratch : Path
deriving Repr

/-- What is left of a run of the program: the disk, all that was printed and complained about, and
the exit code or the failure that ended it. -/
structure Outcome where
  disk : Disk
  printed : Text
  complaints : Text
  exit : Except Failure Nat

namespace Outcome

/-- Nothing but an exit code. -/
def quiet (disk : Disk) (code : Nat) : Outcome :=
  ⟨disk, [], [], .ok code⟩

/-- A complaint and an exit code. -/
def complain (disk : Disk) (complaints : Text) (code : Nat) : Outcome :=
  ⟨disk, [], complaints, .ok code⟩

/-- The outcome of a failure. Faults of the settings are complained about. -/
def ofFailure (disk : Disk) (failure : Failure) : Outcome :=
  if failure.isOfSettings then
    complain disk ("config error: " ++ failure.message ++ "\n") 2
  else ⟨disk, [], [], .error failure⟩

/-- Put the shown part of a log before the complaints. -/
def after (outcome : Outcome) (least : LogLevel) (log : Log) : Outcome :=
  { outcome with complaints := log.render least ++ outcome.complaints }

end Outcome

/-- Go on with what a run has left, or fail as it did. -/
def continueRun {α : Type} (least : LogLevel) (run : Run α) (next : Disk → α → Outcome) : Outcome :=
  let outcome := match run.result with
    | .ok value => next run.disk value
    | .error failure => .ofFailure run.disk failure
  outcome.after least run.log

namespace Surroundings

/-- The path that an argument stands for. -/
def path (around : Surroundings) (argument : Text) : Except Failure Path :=
  match (Path.ofText argument).expandHome around.home with
  | some path => .ok path
  | none => .error .homeUnknown

/-- A path as seen from the working directory. -/
def fromHere (around : Surroundings) (path : Path) : Path :=
  around.workingDirectory.path.join path

/-- The place that an argument stands for. -/
def place (around : Surroundings) (disk : Disk) (argument : Text) : Except Failure Place := do
  match disk.resolve (around.fromHere (← around.path argument)) with
  | .ok place => .ok place
  | .error e => .error (.unresolved e)

/-- The place that an optional argument stands for. -/
def place? (around : Surroundings) (disk : Disk) :
    Option Text → Except Failure (Option Place)
  | none => .ok none
  | some argument => some <$> around.place disk argument

/-- The directory with the artifacts to be checked: the one asked for, or the one that the settings
name, wherever that leads. -/
def artifactsDir (around : Surroundings) (disk : Disk) (root : Place) :
    Option Text → Except Failure Place
  | some argument => around.place disk argument
  | none => do
      let settings ← disk.loadSettings root
      match disk.resolve (root.path.join (Path.ofText settings.outputDir)) with
      | .ok place => .ok place
      | .error e => .error (.unresolved e)

end Surroundings

/-- A story as it is listed. -/
def storyLine (file : Text) (source : Text) (context color : Bool) (story : Story) : Text :=
  let line := file ++ ":" ++ Text.ofInt story.position.line ++ ":"
    ++ Text.ofInt story.position.column ++ ": " ++ story.kind ++ " / " ++ story.story ++ "\n"
  if context then
    line ++ Window.render source story.position.line story.position.column color ++ "\n\n"
  else line

/-- List the stories of a text that was read from a file. -/
def listText (disk : Disk) (least : LogLevel) (settings : Settings) (backend : Option Backend)
    (context color : Bool) (file source : Text) : Outcome :=
  let style : ReadingStyle := ⟨backend.getD settings.backend, settings.pattern⟩
  match style.extract source with
  | .error (.parse e) =>
      .complain disk (file ++ ":" ++ Text.ofInt e.line ++ ":" ++ Text.ofInt e.column ++ ": error: "
        ++ e.message ++ "\n") 2
  | .error e => .ofFailure disk (.extraction e)
  | .ok extraction =>
      let printed := extraction.stories.flatMap (storyLine file source context color)
      Outcome.after ⟨disk, printed, [], .ok 0⟩ least [style.extractionLog extraction]

/-- List the stories of a file. -/
def listFile (around : Surroundings) (disk : Disk) (least : LogLevel) (file : Text)
    (backend : Option Backend) (context color : Bool) : Outcome :=
  match around.path file with
  | .error failure => .ofFailure disk failure
  | .ok path =>
      let refuse (message : Text) : Outcome :=
        .complain disk (path.toText ++ ": error: " ++ message ++ "\n") 2
      match disk.read (around.fromHere path) with
      | .error e => refuse (e.message path)
      | .ok content =>
          match readText content with
          | .error e => refuse e.message
          | .ok source =>
              match disk.loadSettings around.workingDirectory with
              | .error failure => .ofFailure disk failure
              | .ok settings =>
                  listText disk least settings backend context color path.toText source

/-- What is reported when a generation has ended. -/
def generatedEntry (generation : Generation) : LogEntry where
  level := .info
  reporter := .program
  message := "Generated " ++ Text.ofNat generation.storyCount ++ " stories across "
    ++ Text.ofNat generation.kindCount ++ " kinds"

/-- Generate the artifacts of a repository. -/
def generateTask [SourceAccess] (around : Surroundings) (disk : Disk) (least : LogLevel)
    (root : Place) (outDir : Option Text) : Outcome :=
  match around.place? disk outDir with
  | .error failure => .ofFailure disk failure
  | .ok outDir =>
      let run := disk.generate root (outDir.map Place.path) none
      continueRun least (run.report generatedEntry) fun disk _ => .quiet disk 0

/-- Validate the artifacts in a directory. -/
def validateDirectory (disk : Disk) (least : LogLevel) (directory : Place) : Outcome :=
  let report := disk.validate false directory.path
  let warnings := report.warnings.map fun finding =>
    LogEntry.mk .warning .program (finding.location ++ ": " ++ finding.message)
  let errors : Text := report.errors.flatMap fun finding =>
    finding.location ++ ": " ++ finding.message ++ [CodePoint.newline]
  (Outcome.complain disk errors (if report.ok then 0 else 1)).after least warnings

/-- Validate the artifacts of a repository. -/
def validateTask (around : Surroundings) (disk : Disk) (least : LogLevel) (root : Place)
    (artifactsDir : Option Text) : Outcome :=
  match around.artifactsDir disk root artifactsDir with
  | .error failure => .ofFailure disk failure
  | .ok directory => validateDirectory disk least directory

/-- The differences that a verification has found, line by line. -/
def differences (found : Verification) : Text :=
  let lines (label : Text) (names : List Text) : Text :=
    names.flatMap fun name => label ++ ": " ++ name ++ "\n"
  lines "missing" found.missing ++ lines "extra" found.extra ++ lines "mismatches" found.mismatches

/-- Verify the artifacts of a repository in a directory. -/
def verifyDirectory [SourceAccess] (around : Surroundings) (disk : Disk) (least : LogLevel)
    (root directory : Place) : Outcome :=
  match disk.requireArtifacts directory.path with
  | .error failure =>
      .complain disk ("artifacts-dir: " ++ directory.path.toText ++ "\n"
        ++ "error: " ++ failure.message ++ "\n") 2
  | .ok () =>
      continueRun least (disk.verify root directory.path around.scratch none)
        fun disk found => .complain disk (differences found) (if found.ok then 0 else 1)

/-- Verify the artifacts of a repository. -/
def verifyTask [SourceAccess] (around : Surroundings) (disk : Disk) (least : LogLevel)
    (root : Place) (artifactsDir : Option Text) : Outcome :=
  match around.artifactsDir disk root artifactsDir with
  | .error failure => .ofFailure disk failure
  | .ok directory => verifyDirectory around disk least root directory

/-- Run a task. -/
def runTask [SourceAccess] (around : Surroundings) (disk : Disk) (least : LogLevel) :
    Task → Outcome
  | .list file backend context color => listFile around disk least file backend context color
  | .generate root outDir => inRoot root fun place => generateTask around disk least place outDir
  | .validate root artifactsDir =>
      inRoot root fun place => validateTask around disk least place artifactsDir
  | .verify root artifactsDir =>
      inRoot root fun place => verifyTask around disk least place artifactsDir
where
  /-- Go on in the repository that an argument stands for. -/
  inRoot (root : Text) (next : Place → Outcome) : Outcome :=
    match around.place disk root with
    | .error failure => .ofFailure disk failure
    | .ok place => next place

/-- Run the program with a list of arguments. -/
def run [SourceAccess] (around : Surroundings) (disk : Disk) (arguments : List Text) : Outcome :=
  match readInvocation arguments with
  | .error ⟨text, true⟩ => .complain disk text 2
  | .error ⟨text, false⟩ => ⟨disk, text, [], .ok 0⟩
  | .ok invocation =>
      runTask around disk (.threshold invocation.verbosity) invocation.task

end CommandLine

end StoryCatalog
