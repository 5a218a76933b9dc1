import StoryCatalog.Text.Quoted

/-!
# The artifact contract

The names, formats and the schema version of the two artifact files, and the names under which
other tools find the parts of the contract.
-/

namespace StoryCatalog

/-- The schema version that every artifact carries. -/
def schemaVersion : Nat := 1

/-- The file with one story on each line. -/
def storiesFile : String := "stories.jsonl"

/-- The file with the totals. -/
def summaryFile : String := "stories_summary.json"

/-- What the contract says of one artifact. -/
structure ArtifactSpec where
  key : String
  filename : String
  format : String
  note : String
deriving DecidableEq, Repr

/-- The artifacts in the order in which they are checked. -/
def artifactSpecs : List ArtifactSpec :=
  [⟨"stories", storiesFile, "jsonl", "StoryArtifactRecord fields required by contract."⟩,
    ⟨"stories_summary", summaryFile, "json", "StoriesSummary fields required by contract."⟩]

/-- What the contract has under a name. -/
inductive ContractEntry where
  | version (value : Nat)
  | filename (value : String)
  | specs (value : List ArtifactSpec)
  | definition (name : String)
deriving DecidableEq, Repr

/-- The definitions that the contract exposes by name. -/
def contractDefinitions : List String :=
  ["ArtifactSpec", "StoriesSummary", "StoryArtifactRecord", "ValidationMessage",
    "ValidationResult", "build_story_id", "validate_artifacts"]

/-- Look up a name in the contract. -/
def contractEntry? (name : String) : Option ContractEntry :=
  if name == "ARTIFACT_SCHEMA_VERSION" then some (.version schemaVersion)
  else if name == "ARTIFACT_SPECS" then some (.specs artifactSpecs)
  else if name == "STORIES_JSONL" then some (.filename storiesFile)
  else if name == "STORIES_SUMMARY_JSON" then some (.filename summaryFile)
  else if contractDefinitions.contains name then some (.definition name)
  else none

/-- What is said of a name that the contract does not have. -/
def contractEntryMissing (name : Text) : Text :=
  "module 'contract' has no attribute " ++ name.quoted

end StoryCatalog
