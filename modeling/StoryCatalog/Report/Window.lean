import StoryCatalog.Text.Basic

/-!
# Source windows

A window shows a position with two lines of source on each side and a caret under the column. Line
numbers are moved right into one field, and lines outside the text are shown as stars.
-/

namespace StoryCatalog

namespace Window

/-- The marks that switch terminal colours. -/
structure Palette where
  gray : Text
  green : Text
  reset : Text

/-- The terminal colours. -/
def Palette.terminal : Palette :=
  ⟨"\x1b[90m", "\x1b[32;1m", "\x1b[39;0m"⟩

/-- No colours. -/
def Palette.plain : Palette :=
  ⟨[], [], []⟩

/-- The line at an index, when the index is one of the text. -/
def lineAt? (lines : List Text) (index : Int) : Option Text :=
  if index < 0 then none else lines[index.toNat]?

/-- One numbered line, or a star in place of a line outside the text. -/
def formatLine (lines : List Text) (index : Int) (width : Nat) : Text :=
  match lineAt? lines index with
  | none => Text.padLeft width "*" ++ " |"
  | some line => Text.padLeft width (Text.ofInt (index + 1)) ++ " | " ++ line

/-- A line of context, drawn in gray. -/
def contextRow (palette : Palette) (lines : List Text) (width : Nat) (index : Int) : Text :=
  "   " ++ palette.gray ++ " " ++ formatLine lines index width ++ " " ++ palette.reset

/-- The line of the position itself. -/
def markedRow (palette : Palette) (lines : List Text) (width : Nat) (index : Int) : Text :=
  " " ++ palette.green ++ " >" ++ palette.reset ++ " " ++ formatLine lines index width

/-- The row with the caret. -/
def caretRow (palette : Palette) (width : Nat) (column : Int) : Text :=
  "   " ++ palette.gray ++ " " ++ Text.padLeft width " " ++ " |" ++ palette.green ++ " "
    ++ Text.padLeft column.toNat "^" ++ " " ++ palette.reset

/-- The six rows of the window around a position. -/
def rows (palette : Palette) (source : Text) (line column : Int) : List Text :=
  let lines := source.lines
  let current := line - 1
  let width := (Text.ofInt (current + 2)).length
  [contextRow palette lines width (current - 2),
    contextRow palette lines width (current - 1),
    markedRow palette lines width current,
    caretRow palette width column,
    contextRow palette lines width (current + 1),
    contextRow palette lines width (current + 2)]

/-- The window around a position, in colour or plain. -/
def render (source : Text) (line column : Int) (color : Bool) : Text :=
  Text.join [CodePoint.newline]
    (rows (if color then .terminal else .plain) source line column)

end Window

end StoryCatalog
