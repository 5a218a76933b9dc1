import StoryCatalog.Catalog.Log
import StoryCatalog.Contract.Record
import StoryCatalog.Extract
import StoryCatalog.Json.Writer
import StoryCatalog.Scan.Sources

/-!
# Catalogs

A catalog holds the records of all stories of a repository and their summary. Every source file
contributes on its own: either the records of its stories, or the entry of a skipped file when it
cannot be read, be it that the system refuses to open it, that its bytes are no text, or that the
text is no program.
-/

namespace StoryCatalog

/-- What one source file contributes to a catalog. -/
inductive Contribution where
  | stories (records : List StoryRecord)
  | skipped (file : SkippedFile)
deriving DecidableEq, Repr

namespace Contribution

/-- The records of a contribution. -/
def records : Contribution → List StoryRecord
  | .stories records => records
  | .skipped _ => []

/-- The skipped file of a contribution, if it is one. -/
def skipped? : Contribution → Option SkippedFile
  | .stories _ => none
  | .skipped file => some file

end Contribution

/-- The reader of sources and the names that make a chain. -/
structure ReadingStyle where
  backend : Backend
  pattern : Pattern
deriving Repr

namespace ReadingStyle

/-- The log of a successful extraction. -/
def extractionLog (style : ReadingStyle) (extraction : Extraction) : LogEntry where
  level := .debug
  reporter := .extraction
  message := "Extracted " ++ Text.ofNat extraction.stories.length ++ " stories from "
    ++ Text.ofNat extraction.chainCount ++ " chains (backend=" ++ style.backend.name ++ ")"

/-- Read the stories of a text. -/
def extract (style : ReadingStyle) (source : Text) : Except ExtractError Extraction :=
  StoryCatalog.extract style.backend style.pattern source.toStringLossy

end ReadingStyle

/-- Open a source and read its text. What stands against it is given in words. -/
def Source.read [SourceAccess] (source : Source) : Except Text Text :=
  match SourceAccess.refusal? source.names with
  | some words => .error words
  | none =>
      match readText source.content with
      | .error e => .error e.message
      | .ok t => .ok t

theorem Source.read_eq_ok_iff [SourceAccess] {source : Source} {t : Text} :
    source.read = .ok t ↔
      SourceAccess.refusal? source.names = none ∧ readText source.content = .ok t := by
  unfold Source.read
  cases SourceAccess.refusal? source.names with
  | some words => simp
  | none => cases readText source.content <;> simp

/-- A source that cannot be read is refused by the system, or its bytes are no text. -/
theorem Source.read_eq_error_iff [SourceAccess] {source : Source} {words : Text} :
    source.read = .error words ↔
      SourceAccess.refusal? source.names = some words ∨
        SourceAccess.refusal? source.names = none ∧
          ∃ e, readText source.content = .error e ∧ e.message = words := by
  unfold Source.read
  cases SourceAccess.refusal? source.names with
  | some words => simp
  | none => cases readText source.content <;> simp

/-- What a source contributes and what is reported about it. Errors other than those of the source
itself end the run. -/
def Source.contribution [SourceAccess] (style : ReadingStyle) (source : Source) :
    Log × Except ExtractError Contribution :=
  let report (level : LogLevel) (message : Text) : LogEntry := ⟨level, .generation, message⟩
  match source.read with
  | .error words =>
      ([report .warning ("Skipping " ++ source.path ++ ": " ++ words)],
        .ok (.skipped ⟨source.path, none, none, "unreadable: " ++ words⟩))
  | .ok t =>
      match style.extract t with
      | .error (.parse e) =>
          ([report .warning ("Skipping " ++ source.path ++ ": parse error at " ++ Text.ofInt e.line
              ++ ":" ++ Text.ofInt e.column ++ ": " ++ e.message)],
            .ok (.skipped ⟨source.path, some e.line, some e.column, e.message⟩))
      | .error e => ([], .error e)
      | .ok extraction =>
          ([style.extractionLog extraction,
              report .debug (source.path ++ ": " ++ Text.ofNat extraction.stories.length
                ++ " stories")],
            .ok (.stories (extraction.stories.map (StoryRecord.ofStory source.path))))

/-- The contributions of sources, in order, up to an error that ends the run. -/
def contributions [SourceAccess] (style : ReadingStyle) :
    List Source → Log × Except ExtractError (List Contribution)
  | [] => ([], .ok [])
  | source :: rest =>
      match source.contribution style with
      | (log, .error e) => (log, .error e)
      | (log, .ok first) =>
          let (more, others) := contributions style rest
          (log ++ more, others.map (first :: ·))

/-- The records of a repository and their summary. -/
structure Catalog where
  records : List StoryRecord
  summary : Summary
deriving DecidableEq, Repr

namespace Catalog

/-- The catalog that contributions make together, one from each scanned file. -/
def ofContributions (parts : List Contribution) : Catalog :=
  let records := parts.flatMap Contribution.records
  { records := records
    summary :=
      { schemaVersion := schemaVersion
        fileCount := parts.length
        storyCount := records.length
        kinds := kindCounts (records.map StoryRecord.kind)
        skipped := parts.filterMap Contribution.skipped? } }

/-- The file with the records, up to the first one that cannot be written. -/
def recordsText (catalog : Catalog) : Text × Option Json.WriteError :=
  Json.writeLines (catalog.records.map StoryRecord.toDatum)

/-- The file with the summary. -/
def summaryText (catalog : Catalog) : Except Json.WriteError Text :=
  Json.write catalog.summary.toDatum

end Catalog

end StoryCatalog
