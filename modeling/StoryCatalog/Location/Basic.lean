import StoryCatalog.Text.Utf8

/-!
# Positions in source text

A position is a line and a column, both counted from one. A point is what a concrete tree knows of
an offset: the row and the number of bytes since the last newline, both counted from zero.
-/

namespace StoryCatalog

/-- A line and a column, counted from one. -/
structure Position where
  line : Int
  column : Int
deriving DecidableEq, Repr

/-- A row and a byte column, counted from zero. -/
structure Point where
  row : Int
  column : Int
deriving DecidableEq, Repr

/-- Why an offset has no position. -/
inductive LocationError where
  | outside (offset : Int) (length : Nat)
  | unrecorded (offset : Int)
deriving DecidableEq, Repr

/-- The error in words. -/
def LocationError.message : LocationError → Text
  | .outside offset length =>
      "Offset " ++ Text.ofInt offset ++ " is outside the source (length " ++ Text.ofNat length
        ++ ")"
  | .unrecorded offset => "No node position recorded for offset " ++ Text.ofInt offset

/-- The place of an index in a sequence: a negative index counts from the end, and none comes before
the start. -/
def placeOf {α : Type} (xs : List α) (index : Int) : Nat :=
  if index < 0 then (index + xs.length).toNat else index.toNat

/-- The part of a sequence from one index up to another. -/
def slice {α : Type} (xs : List α) (start stop : Int) : List α :=
  (xs.drop (placeOf xs start)).take (placeOf xs stop - placeOf xs start)

/-- The newline byte. -/
def newlineByte : UInt8 := 0x0A

/-- The point of an offset: the newlines before it and the bytes since the last of them. -/
def pointAt (source : Bytes) (offset : Int) : Point :=
  let before := source.take (placeOf source offset)
  ⟨(before.count newlineByte : Nat), ((before.reverse.takeWhile (· ≠ newlineByte)).length : Nat)⟩

/-- The column in characters of an offset that stands `byteColumn` bytes into its line. -/
def charColumn (source : Bytes) (offset byteColumn : Int) : Int :=
  ((Utf8.decodeReplacing (slice source (offset - byteColumn) offset)).length : Nat) + 1

end StoryCatalog
