import StoryCatalog.Contract.Record
import StoryCatalog.Json.Reader

/-!
# Validation of artifacts

Each artifact is checked on its own first: its JSON, its schema and its schema version. When both
can be read, the totals of the summary are compared with the records. A schema version that is
missing is a warning, or an error in strict validation; a different one is always an error. Of the
records only the first such fault is reported.
-/

namespace StoryCatalog

/-- A fault of an artifact, with the line of the file that has it. -/
structure Finding where
  artifact : String
  path : Text
  message : Text
  line : Option Nat
deriving DecidableEq, Repr

/-- Where a finding is. -/
def Finding.location (f : Finding) : Text :=
  match f.line with
  | none => f.path
  | some line => f.path ++ ":" ++ Text.ofNat line

/-- The findings of a validation, in the order in which they were made. -/
structure Report where
  errors : List Finding
  warnings : List Finding
deriving DecidableEq, Repr

namespace Report

/-- No findings. -/
def empty : Report := ⟨[], []⟩

/-- No errors. -/
def ok (r : Report) : Bool :=
  r.errors.isEmpty

/-- The findings of two checks. -/
def append (r s : Report) : Report :=
  ⟨r.errors ++ s.errors, r.warnings ++ s.warnings⟩

instance : Append Report := ⟨append⟩

/-- One error. -/
def error (artifact : String) (path : Text) (line : Option Nat) (message : Text) : Report :=
  ⟨[⟨artifact, path, message, line⟩], []⟩

/-- One warning. -/
def warning (artifact : String) (path : Text) (line : Option Nat) (message : Text) : Report :=
  ⟨[], [⟨artifact, path, message, line⟩]⟩

end Report

namespace Validation

/-- The name of the records in findings. -/
def recordsArtifact : String := "stories"

/-- The name of the summary in findings. -/
def summaryArtifact : String := "stories_summary"

/-- The lines of a file: they end at line feeds, carriage returns, or both together. -/
def lines : Bytes → List Bytes
  | [] => []
  | 0x0D :: 0x0A :: rest => [] :: lines rest
  | b :: rest =>
      if b = 0x0A || b = 0x0D then [] :: lines rest
      else
        match lines rest with
        | [] => [[b]]
        | line :: more => (b :: line) :: more

/-- A blank of ASCII. -/
def isBlankByte (b : UInt8) : Bool :=
  b = 0x20 || (0x09 ≤ b && b ≤ 0x0D)

/-- The fault of a schema version, if it has one. -/
inductive VersionFault where
  | missing
  | different (found : Int)
deriving DecidableEq, Repr

/-- The schema version of a datum is read as the right one only if it is there. -/
def versionFault? (datum : Datum) (version : Int) : Option VersionFault :=
  match datum with
  | .table data =>
      if (Datum.get? "schema_version" data).isNone then some .missing
      else if version ≠ schemaVersion then some (.different version)
      else none
  | _ => some .missing

/-- The finding about a schema version. -/
def versionReport (strict : Bool) (artifact : String) (path : Text) (line : Option Nat) :
    Option VersionFault → Report
  | none => .empty
  | some .missing =>
      let message : Text :=
        "Missing schema_version; defaulted to " ++ Text.ofNat schemaVersion ++ "."
      if strict then .error artifact path line message else .warning artifact path line message
  | some (.different found) =>
      .error artifact path line
        ("Schema version mismatch: expected " ++ Text.ofNat schemaVersion ++ ", got "
          ++ Text.ofInt found ++ ".")

/-- The findings about the position and the identifier of a record. -/
def recordReport (path : Text) (line : Nat) (r : StoryRecord) : Report :=
  let position : Report :=
    if r.line < 1 || r.column < 1 then
      .error recordsArtifact path (some line)
        ("Story position must be 1-based, got line " ++ Text.ofInt r.line ++ " column "
          ++ Text.ofInt r.column ++ ".")
    else .empty
  let identifier : Report :=
    if r.storyId ≠ r.expectedId then
      .error recordsArtifact path (some line)
        ("story_id " ++ r.storyId.quoted ++ " does not match its record (expected "
          ++ r.expectedId.quoted ++ ").")
    else .empty
  position ++ identifier

/-- What a line of the records holds. -/
inductive LineContent where
  | blank
  | invalid
  | unfit (issues : List Schema.Issue)
  | record (datum : Datum) (record : StoryRecord)

/-- Read a line of the records. -/
def readLine (bytes : Bytes) : LineContent :=
  if bytes.all isBlankByte then .blank
  else
    match Json.read bytes with
    | none => .invalid
    | some datum =>
        match StoryRecord.ofDatum datum with
        | .refused issues => .unfit issues
        | .ok record => .record datum record

/-- The report on data that does not fit a model. -/
def schemaMessage (model : String) (issues : List Schema.Issue) : Text :=
  "Schema validation failed: " ++ Schema.report model issues ++ "."

/-- What has been read of the records: the findings, the records, whether every line could be read,
and whether a fault of a version has been reported. -/
structure Reading where
  report : Report
  records : List StoryRecord
  complete : Bool
  versionReported : Bool

/-- Go on with the next line, which has this number. -/
def Reading.step (strict : Bool) (path : Text) (reading : Reading) (number : Nat)
    (content : LineContent) : Reading :=
  let refuse (message : Text) : Reading :=
    { reading with
      report := reading.report ++ .error recordsArtifact path (some number) message
      complete := false }
  match content with
  | .blank => reading
  | .invalid => refuse "Invalid JSON."
  | .unfit issues => refuse (schemaMessage StoryRecord.model issues)
  | .record datum record =>
      let fault := if reading.versionReported then none
        else versionFault? datum record.schemaVersion
      { report := reading.report ++ versionReport strict recordsArtifact path (some number) fault
          ++ recordReport path number record
        records := reading.records ++ [record]
        complete := reading.complete
        versionReported := reading.versionReported || fault.isSome }

/-- Go through lines, the first of which has this number. -/
def readLines (strict : Bool) (path : Text) : Reading → Nat → List Bytes → Reading
  | reading, _, [] => reading
  | reading, number, line :: rest =>
      readLines strict path (reading.step strict path number (readLine line)) (number + 1) rest

/-- Read the file with the records. -/
def readRecords (strict : Bool) (path : Text) (content : Bytes) : Reading :=
  readLines strict path ⟨.empty, [], true, false⟩ 1 (lines content)

/-- Read the file with the summary. -/
def readSummary (strict : Bool) (path : Text) (content : Bytes) : Report × Option Summary :=
  let refuse (message : Text) : Report × Option Summary :=
    (.error summaryArtifact path none message, none)
  match Json.read content with
  | none => refuse "Invalid JSON."
  | some (.table data) =>
      match Summary.ofDatum (.table data) with
      | .refused issues => refuse (schemaMessage Summary.model issues)
      | .ok summary =>
          (versionReport strict summaryArtifact path none
            (versionFault? (.table data) summary.schemaVersion), some summary)
  | some _ => refuse ("Expected JSON object for " ++ summaryFile ++ ".")

/-- Two tables of counts are equal up to the order of their entries. -/
def sameCounts (first second : List (Text × Int)) : Bool :=
  first.length == second.length && first.all fun (kind, count) => second.lookup kind == some count

/-- The findings about totals that the records do not have. -/
def totalsReport (path : Text) (summary : Summary) (records : List StoryRecord) : Report :=
  let found := kindCounts (records.map StoryRecord.kind)
  let count : Report :=
    if summary.storyCount ≠ records.length then
      .error summaryArtifact path none
        ("story_count is " ++ Text.ofInt summary.storyCount ++ " but " ++ storiesFile ++ " holds "
          ++ Text.ofNat records.length ++ " records.")
    else .empty
  let kinds : Report :=
    if sameCounts summary.kinds found then .empty
    else
      .error summaryArtifact path none
        ("Per-kind counts " ++ (Summary.countsDatum summary.kinds).quoted ++ " do not match "
          ++ storiesFile ++ " " ++ (Summary.countsDatum found).quoted ++ ".")
  count ++ kinds

/-- Validate the content of both artifacts, found at these paths. -/
def validateContents (strict : Bool) (recordsPath summaryPath : Text) (records summary : Bytes) :
    Report :=
  let reading := readRecords strict recordsPath records
  let (summaryReport, summary?) := readSummary strict summaryPath summary
  let totals : Report :=
    match reading.complete, summary? with
    | true, some summary => totalsReport summaryPath summary reading.records
    | _, _ => .empty
  reading.report ++ summaryReport ++ totals

/-- What is known of the artifacts on disk. -/
inductive Artifacts where
  | absent
  | notDirectory
  | files (records summary : Option Bytes)

/-- Validate the artifacts of a directory. The arguments are the paths of the directory and of the
two files. -/
def validate (strict : Bool) (directory recordsPath summaryPath : Text) : Artifacts → Report
  | .absent => .error "artifacts_dir" directory none "Artifacts directory does not exist."
  | .notDirectory => .error "artifacts_dir" directory none "Artifacts path is not a directory."
  | .files (some records) (some summary) =>
      validateContents strict recordsPath summaryPath records summary
  | .files records summary =>
      let missing : Text := "Required artifact file is missing."
      (if records.isNone then .error recordsArtifact recordsPath none missing else .empty)
        ++ (if summary.isNone then .error summaryArtifact summaryPath none missing else .empty)

end Validation

end StoryCatalog
