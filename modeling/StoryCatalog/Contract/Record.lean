import StoryCatalog.Chain.Story
import StoryCatalog.Contract.Artifact
import StoryCatalog.Contract.StoryId
import StoryCatalog.Schema.Checked

/-!
# Records of the artifacts

One record for each story, and a summary of all files: how many there were, how many stories each
kind has, and which files were skipped. A record is written as a datum and read back by its schema.
-/

namespace StoryCatalog

open Schema

/-- A position as a datum. -/
def Position.toDatum (p : Position) : Datum :=
  .table [("line", .integer p.line), ("column", .integer p.column)]

/-- A story as a line of the artifact holds it. -/
structure StoryRecord where
  schemaVersion : Int
  storyId : Text
  path : Text
  kind : Text
  story : Text
  line : Int
  column : Int
deriving DecidableEq, Repr

namespace StoryRecord

/-- The name of the model in reports. -/
def model : String := "StoryArtifactRecord"

/-- The record of a story of the file at a path. -/
def ofStory (path : Text) (story : Story) : StoryRecord where
  schemaVersion := StoryCatalog.schemaVersion
  storyId :=
    StoryCatalog.storyId path story.position.line story.position.column story.kind story.story
  path := path
  kind := story.kind
  story := story.story
  line := story.position.line
  column := story.position.column

/-- The record as a datum. -/
def toDatum (r : StoryRecord) : Datum :=
  .table
    [("schema_version", .integer r.schemaVersion), ("story_id", .text r.storyId),
      ("path", .text r.path), ("kind", .text r.kind), ("story", .text r.story),
      ("line", .integer r.line), ("column", .integer r.column)]

/-- The record that a datum stands for. -/
def ofDatum : Datum → Checked StoryRecord :=
  record model fun data =>
    StoryRecord.mk <$> optional data "schema_version" (StoryCatalog.schemaVersion : Int) integer
      <*> required data "story_id" text <*> required data "path" text
      <*> required data "kind" text <*> required data "story" text
      <*> required data "line" integer <*> required data "column" integer

/-- The identifier that the other fields of a record ask for. -/
def expectedId (r : StoryRecord) : Text :=
  StoryCatalog.storyId r.path r.line r.column r.kind r.story

end StoryRecord

/-- A source file that was skipped because it could not be read. -/
structure SkippedFile where
  path : Text
  line : Option Int
  column : Option Int
  message : Text
deriving DecidableEq, Repr

namespace SkippedFile

/-- The name of the model in reports. -/
def model : String := "ParseErrorEntry"

/-- A number or nothing as a datum. -/
def numberDatum : Option Int → Datum
  | some n => .integer n
  | none => .null

/-- The skipped file as a datum. -/
def toDatum (f : SkippedFile) : Datum :=
  .table
    [("path", .text f.path), ("line", numberDatum f.line), ("column", numberDatum f.column),
      ("message", .text f.message)]

/-- The skipped file that a datum stands for. -/
def ofDatum : Datum → Checked SkippedFile :=
  record model fun data =>
    SkippedFile.mk <$> required data "path" text <*> optional data "line" none optionalInteger
      <*> optional data "column" none optionalInteger <*> required data "message" text

end SkippedFile

/-- The totals of a catalog. -/
structure Summary where
  schemaVersion : Int
  fileCount : Int
  storyCount : Int
  kinds : List (Text × Int)
  skipped : List SkippedFile
deriving DecidableEq, Repr

namespace Summary

/-- The name of the model in reports. -/
def model : String := "StoriesSummary"

/-- Counts by name as a datum. -/
def countsDatum (counts : List (Text × Int)) : Datum :=
  .table (counts.map fun (kind, count) => (kind, .integer count))

/-- The summary as a datum. -/
def toDatum (s : Summary) : Datum :=
  .table
    [("schema_version", .integer s.schemaVersion), ("file_count", .integer s.fileCount),
      ("story_count", .integer s.storyCount), ("kinds", countsDatum s.kinds),
      ("parse_errors", .list (s.skipped.map SkippedFile.toDatum))]

/-- The summary that a datum stands for. -/
def ofDatum : Datum → Checked Summary :=
  record model fun data =>
    Summary.mk <$> optional data "schema_version" (StoryCatalog.schemaVersion : Int) integer
      <*> required data "file_count" integer <*> required data "story_count" integer
      <*> optional data "kinds" [] (table integer)
      <*> optional data "parse_errors" [] (list SkippedFile.ofDatum)

end Summary

/-- Count one more of a kind. Kinds stand in ascending order. -/
def countKind (kind : Text) : List (Text × Int) → List (Text × Int)
  | [] => [(kind, 1)]
  | (other, count) :: rest =>
      if kind == other then (other, count + 1) :: rest
      else if Text.le kind other then (kind, 1) :: (other, count) :: rest
      else (other, count) :: countKind kind rest

/-- How often each kind occurs, in ascending order of the kinds. -/
def kindCounts (kinds : List Text) : List (Text × Int) :=
  kinds.foldl (fun counts kind => countKind kind counts) []

end StoryCatalog
