import StoryCatalog.Catalog.Run

/-!
# Generating artifacts

The sources of a repository are read into a catalog, and the catalog is written into the output
directory, the records first. The output directory is made if it is missing.
-/

namespace StoryCatalog

/-- Which files settings select when the artifacts go to a path. -/
def Settings.selection (settings : Settings) (root : Place) (outDir : Path) : Selection where
  extensions := settings.extensions
  outputName := outDir.firstBelow root.path
  included := settings.included
  excluded := settings.excluded
  nestedIgnore := settings.nestedIgnore

/-- How settings have sources read. -/
def Settings.readingStyle (settings : Settings) : ReadingStyle :=
  ⟨settings.backend, settings.pattern⟩

/-- The outcome of a generation: the catalog and where it was written. -/
structure Generation where
  catalog : Catalog
  outDir : Path
deriving Repr

namespace Generation

/-- The number of records. -/
def storyCount (g : Generation) : Nat := g.catalog.records.length

/-- The number of scanned files. -/
def fileCount (g : Generation) : Int := g.catalog.summary.fileCount

/-- The number of kinds. -/
def kindCount (g : Generation) : Nat := g.catalog.summary.kinds.length

/-- The number of skipped files. -/
def skippedCount (g : Generation) : Nat := g.catalog.summary.skipped.length

/-- The paths of the artifacts. -/
def artifacts (g : Generation) : List Path :=
  [g.outDir.child storiesFile, g.outDir.child summaryFile]

/-- What is reported at the end of a generation. -/
def logEntry (g : Generation) : LogEntry where
  level := .info
  reporter := .writing
  message := "Wrote " ++ Text.ofNat g.storyCount ++ " stories from " ++ Text.ofInt g.fileCount
    ++ " files to " ++ g.outDir.toText ++ " (" ++ Text.ofNat g.skippedCount ++ " skipped)"

end Generation

namespace Disk

/-- The catalog of the repository at a place, when the artifacts go to a path. -/
def catalog [SourceAccess] (disk : Disk) (root : Place) (outDir : Path) (settings : Settings) :
    Run Catalog :=
  match disk.sources root (settings.selection root outDir) with
  | .error fault => .fail disk (.ignoreFile fault)
  | .ok sources =>
      match contributions settings.readingStyle sources with
      | (log, .error e) => ⟨disk, log, .error (.extraction e)⟩
      | (log, .ok parts) => ⟨disk, log, .ok (.ofContributions parts)⟩

/-- Make a directory and those above it that are missing. -/
def prepare (disk : Disk) (outDir : Path) : Run Unit :=
  match disk.makeDirectories outDir with
  | .ok made => .pure made ()
  | .error (e, path) => .fail disk (.disk e path)

/-- Write the records of a catalog. A record that cannot be written ends the file. -/
def writeRecords (disk : Disk) (catalog : Catalog) (path : Path) : Run Unit :=
  let (written, fault) := catalog.recordsText
  (Run.change disk (Failure.ofDisk path (disk.write path written.utf8))).andThen fun disk _ =>
    match fault with
    | none => .pure disk ()
    | some e => .fail disk (.unwritable e)

/-- Write the summary of a catalog. -/
def writeSummary (disk : Disk) (catalog : Catalog) (path : Path) : Run Unit :=
  match catalog.summaryText with
  | .error e => .fail disk (.unwritable e)
  | .ok written => .change disk (Failure.ofDisk path (disk.write path written.utf8))

/-- Generate the artifacts of the repository at a place into the directory at a path. -/
def generateInto [SourceAccess] (disk : Disk) (root : Place) (outDir : Path)
    (settings : Settings) : Run Generation :=
  let written :=
    (disk.prepare outDir).andThen fun disk _ =>
    (disk.catalog root outDir settings).andThen fun disk catalog =>
    (disk.writeRecords catalog (outDir.child storiesFile)).andThen fun disk _ =>
    (disk.writeSummary catalog (outDir.child summaryFile)).andThen fun disk _ =>
    .pure disk ⟨catalog, outDir⟩
  written.report Generation.logEntry

/-- The directory that the artifacts go to: the one asked for, or the one of the settings. -/
def outputDir (disk : Disk) (root : Place) (settings : Settings) : Option Path → Except Failure Path
  | some path => .ok path
  | none =>
      match disk.resolveOutputDir root settings.outputDir with
      | .ok place => .ok place.path
      | .error e => .error (.outputDir e)

/-- The settings that hold: those given, or those of the repository. -/
def settingsOr (disk : Disk) (root : Place) : Option Settings → Except Failure Settings
  | some settings => .ok settings
  | none => disk.loadSettings root

/-- Generate the artifacts of the repository at a place. -/
def generate [SourceAccess] (disk : Disk) (root : Place) (outDir : Option Path)
    (settings : Option Settings) : Run Generation :=
  (Run.look disk (disk.settingsOr root settings)).andThen fun disk settings =>
  (Run.look disk (disk.outputDir root settings outDir)).andThen fun disk outDir =>
  disk.generateInto root outDir settings

end Disk

end StoryCatalog
