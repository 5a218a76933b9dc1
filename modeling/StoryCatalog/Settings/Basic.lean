import StoryCatalog.Extract
import StoryCatalog.Schema.Checked
import StoryCatalog.Text.LowerCase
import StoryCatalog.Toml.Document

/-!
# Settings

What can be configured for a repository: where the artifacts go, which files are scanned, which
reader reads them and which names make a chain. Settings are checked by a schema that admits no
other fields.
-/

namespace StoryCatalog

open Schema

/-- The settings of a repository. -/
structure Settings where
  outputDir : Text
  included : List Text
  excluded : List Text
  extensions : List Text
  nestedIgnore : Bool
  backend : Backend
  pattern : Pattern
deriving Repr

namespace Settings

/-- The file that holds the settings of a repository. -/
def fileName : String := "storymap.toml"

/-- The suffixes that are scanned when nothing else is said. -/
def standardExtensions : List Text := [".js", ".jsx", ".mjs", ".cjs"].map Text.ofString

/-- The globs of files that are left out when nothing else is said. -/
def standardExcluded : List Text := ["node_modules/*", "*/node_modules/*"].map Text.ofString

/-- The settings of a repository that has none of its own. -/
def standard : Settings where
  outputDir := ".storymap"
  included := []
  excluded := standardExcluded
  extensions := standardExtensions
  nestedIgnore := false
  backend := .concrete
  pattern := .standard

/-- Why data are no settings: issues of the schema, a value for the suffixes that is no list at all,
or one that no message can show because it is too deep. -/
inductive Fault where
  | issues (issues : List Issue)
  | extensionsNoList
  | extensionTooDeep
deriving DecidableEq, Repr

/-- The name of the model in reports. -/
def model : String := "StoryMapConfig"

/-- The name of the model of the pattern in reports. -/
def patternModel : String := "PatternConfig"

/-- The fault in words. -/
def Fault.message : Fault → Text
  | .issues found => report model found
  | .extensionsNoList => "extensions must be a list of file suffixes"
  | .extensionTooDeep => Datum.tooDeep ++ " while getting the repr of an object"

/-- A suffix with a point at its front, in small letters. -/
def suffix? : Datum → Option Text
  | .text (0x2E :: rest) => some (Text.toLower (0x2E :: rest))
  | _ => none

/-- What is said of a value that is no suffix. -/
def invalidExtension (value : Datum) : Text :=
  match value.unquotable? Datum.mostCalls with
  | none => "Invalid extension " ++ value.quoted ++ ": expected a suffix like '.jsx'"
  | some .tooDeep => Fault.message .extensionTooDeep
  | some .tooManyDigits => Text.tooManyDigits none

/-- Suffixes. The first one without a point is complained about. -/
def suffixes : List Datum → Checked (List Text)
  | [] => .ok []
  | value :: rest =>
      match suffix? value with
      | some suffix => Checked.map (suffix :: ·) (suffixes rest)
      | none => Checked.complain (.value (invalidExtension value))

/-- The suffixes to be scanned. -/
def extensionsOf : Datum → Checked (List Text)
  | .null => .ok standardExtensions
  | .list items => suffixes items
  | _ => .complain .notList

/-- The reader with a name. -/
def backendOf (value : Datum) : Checked Backend :=
  Checked.map (fun name => (Backend.ofName? name).getD .concrete)
    (choice [Backend.concrete.name, Backend.strict.name] value)

/-- The fields of a pattern. -/
def patternFields : List Text := ["group_function", "story_method"].map Text.ofString

/-- The names that make a chain. -/
def patternOf : Datum → Checked Pattern :=
  record patternModel fun data =>
    (fun group method _ => ⟨group, method⟩)
      <$> optional data "group_function" Pattern.standard.group nonEmptyText
      <*> optional data "story_method" Pattern.standard.method nonEmptyText
      <*> noExtra patternFields data

/-- The fields of settings. -/
def fields : List Text :=
  ["output_dir", "include", "exclude", "extensions", "nested_gitignore", "backend",
    "pattern"].map Text.ofString

/-- The settings that the entries of a table stand for. -/
def ofEntries (data : List (Text × Datum)) : Checked Settings :=
  (fun outputDir included excluded extensions nestedIgnore backend pattern _ =>
      ⟨outputDir, included, excluded, extensions, nestedIgnore, backend, pattern⟩)
    <$> optional data "output_dir" standard.outputDir text
    <*> optional data "include" standard.included (list text)
    <*> optional data "exclude" standard.excluded (list text)
    <*> optional data "extensions" standard.extensions extensionsOf
    <*> optional data "nested_gitignore" standard.nestedIgnore bool
    <*> optional data "backend" standard.backend backendOf
    <*> optional data "pattern" standard.pattern patternOf
    <*> noExtra fields data

/-- What stops the check at the value for the suffixes: it is neither a list nor nothing, or the
first item of it that is no suffix is too deep to be complained about. -/
def extensionsFault? (data : List (Text × Datum)) : Option Fault :=
  match Datum.get? "extensions" data with
  | none => none
  | some .null => none
  | some (.list items) =>
      match items.find? fun item => (suffix? item).isNone with
      | none => none
      | some item =>
          if item.unquotable? Datum.mostCalls = some .tooDeep then some .extensionTooDeep else none
  | some _ => some .extensionsNoList

/-- The settings that a datum stands for. -/
def ofDatum (datum : Datum) : Except Fault Settings :=
  match datum with
  | .table data =>
      match extensionsFault? data with
      | some fault => .error fault
      | none =>
          match ofEntries data with
          | .ok settings => .ok settings
          | .refused issues => .error (.issues issues)
  | _ => .error (.issues [⟨[], .notRecord model⟩])

/-- Why settings cannot be loaded from a file. -/
inductive LoadError where
  | undecodable (error : Utf8.IllFormed)
  | tooLong (digits : Nat)
  | tooDeep
  | malformed (path message : Text)
  | unfit (path : Text) (fault : Fault)
deriving Repr

/-- The error in words. -/
def LoadError.message : LoadError → Text
  | .undecodable error => error.message
  | .tooLong digits => Text.tooManyDigits (some digits)
  | .tooDeep => Datum.tooDeep
  | .malformed path message => "Invalid TOML in " ++ path ++ ": " ++ message
  | .unfit path fault => "Invalid config in " ++ path ++ ": " ++ fault.message

/-- Load settings from the content of the file at a path. Without a file the standard ones hold. -/
def load (path : Text) (content : Option Bytes) : Except LoadError Settings :=
  match content with
  | none => .ok standard
  | some bytes =>
      match Utf8.decode bytes with
      | .error e => .error (.undecodable e)
      | .ok t =>
          match Toml.readText t with
          | .error (.tooLong digits) => .error (.tooLong digits)
          | .error .tooDeep => .error .tooDeep
          | .error (.malformed message) => .error (.malformed path message)
          | .ok table =>
              match ofDatum (.table table) with
              | .error fault => .error (.unfit path fault)
              | .ok settings => .ok settings

end Settings

end StoryCatalog
