import StoryCatalog.Datum.Basic
import StoryCatalog.Text.Utf8

/-!
# Writing data as JSON

Artifacts are written with the names of every table in ascending order, so that equal data give
equal text. A datum that JSON cannot carry is refused: a text with a surrogate, an integer that
fits neither signed nor unsigned 64 bits, or lists and tables that are nested too deep. Of several
faults in a table the names come first, and then the data in the order of their names.
-/

namespace StoryCatalog

namespace Json

/-- Why a datum cannot be written. -/
inductive WriteError where
  | surrogate
  | integerRange
  | tooDeep
deriving DecidableEq, Repr

/-- The error in words. -/
def WriteError.message : WriteError → String
  | .surrogate => "str is not valid UTF-8: surrogates not allowed"
  | .integerRange => "Integer exceeds 64-bit range"
  | .tooDeep => "Recursion limit reached"

/-- How a character stands in a string. -/
def escaped (c : CodePoint) : Text :=
  if c = 0x22 then "\\\""
  else if c = 0x5C then "\\\\"
  else if c = 0x08 then "\\b"
  else if c = 0x09 then "\\t"
  else if c = 0x0A then "\\n"
  else if c = 0x0C then "\\f"
  else if c = 0x0D then "\\r"
  else if c.val < 0x20 then "\\u" ++ Text.hexField 4 c.val
  else [c]

/-- A text as a string. -/
def string (t : Text) : Except WriteError Text :=
  if t.isScalar then .ok (0x22 :: t.flatMap escaped ++ [0x22]) else .error .surrogate

/-- An integer, if it fits into 64 bits. -/
def integer (n : Int) : Except WriteError Text :=
  if fitsWord n then .ok (Text.ofInt n) else .error .integerRange

/-- How much room the text takes: all on one line, or each item on a line of its own, indented by
two blanks for each list or table around it. -/
inductive Layout where
  | compact
  | indented
deriving DecidableEq, Repr

namespace Layout

/-- A line end and the blanks at this depth, or nothing. -/
def lineEnd (depth : Nat) : Layout → Text
  | .compact => []
  | .indented => CodePoint.newline :: List.replicate (2 * depth) CodePoint.space

/-- What stands between a name and its datum. -/
def colon : Layout → Text
  | .compact => ":"
  | .indented => ": "

/-- Items between brackets. -/
def enclose (layout : Layout) (depth : Nat) (opening closing : CodePoint) (items : List Text) :
    Text :=
  if items.isEmpty then [opening, closing]
  else
    let separator := 0x2C :: layout.lineEnd (depth + 1)
    opening :: layout.lineEnd (depth + 1) ++ Text.join separator items
      ++ layout.lineEnd depth ++ [closing]

end Layout

/-- Put a named item where its name belongs in ascending order. -/
def insertByName {α : Type} (entry : Text × α) : List (Text × α) → List (Text × α)
  | [] => [entry]
  | first :: rest =>
      if Text.le entry.1 first.1 then entry :: first :: rest else first :: insertByName entry rest

/-- Named items in ascending order of their names. -/
def sortByName {α : Type} : List (Text × α) → List (Text × α)
  | [] => []
  | entry :: rest => insertByName entry (sortByName rest)

/-- The greatest number of lists and tables around the innermost one, counted with it. -/
def deepest : Nat := 254

/-- The entries of a table, when all names can be written and then all data. -/
def Layout.entries (layout : Layout) (written : List (Text × Except WriteError Text)) :
    Except WriteError (List Text) := do
  let named ← written.mapM fun (name, value) => do return (name, ← string name, value)
  (sortByName named).mapM fun (_, key, value) => do return key ++ layout.colon ++ (← value)

/-- A datum inside this many lists and tables. -/
def writeAt (layout : Layout) (depth : Nat) : Datum → Except WriteError Text
  | .null => .ok "null"
  | .bool value => .ok (if value then "true" else "false")
  | .integer value => integer value
  | .real value =>
      .ok (if value.isFinite then value.render Binary64.artifactFormat else "null")
  | .text value => string value
  | .moment value => string value.quoted
  | .list items => do
      if deepest ≤ depth then throw .tooDeep
      return layout.enclose depth 0x5B 0x5D (← writeItems layout (depth + 1) items)
  | .table entries => do
      if deepest ≤ depth then throw .tooDeep
      let written ← layout.entries (writeEntries layout (depth + 1) entries)
      return layout.enclose depth 0x7B 0x7D written
where
  /-- The items of a list. -/
  writeItems (layout : Layout) (depth : Nat) : List Datum → Except WriteError (List Text)
    | [] => .ok []
    | item :: rest => do
        let first ← writeAt layout depth item
        return first :: (← writeItems layout depth rest)
  /-- The data of a table, each with its name. -/
  writeEntries (layout : Layout) (depth : Nat) :
      List (Text × Datum) → List (Text × Except WriteError Text)
    | [] => []
    | (name, value) :: rest =>
        (name, writeAt layout depth value) :: writeEntries layout depth rest

/-- A datum as a text of several lines. -/
def write (value : Datum) : Except WriteError Text :=
  writeAt .indented 0 value

/-- A datum on one line. -/
def writeLine (value : Datum) : Except WriteError Text := do
  return (← writeAt .compact 0 value) ++ [CodePoint.newline]

/-- The lines of data up to the first one that cannot be written, and why it cannot. -/
def writeLines : List Datum → Text × Option WriteError
  | [] => ([], none)
  | value :: rest =>
      match writeLine value with
      | .error e => ([], some e)
      | .ok line =>
          let (more, fault) := writeLines rest
          (line ++ more, fault)

end Json

end StoryCatalog
