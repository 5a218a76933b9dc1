import StoryCatalog.Location.Basic
import StoryCatalog.Syntax.View

/-!
# Positions from recorded points

A point table keeps the position of every byte offset whose point has been recorded. Recording an
offset again replaces its position.
-/

namespace StoryCatalog

/-- The source bytes and the positions recorded so far, one for each offset. -/
structure PointTable where
  source : Bytes
  entries : List (Int × Position)

namespace PointTable

/-- A table without entries. -/
def empty (source : Bytes) : PointTable :=
  ⟨source, []⟩

/-- Record the point of an offset. -/
def record (table : PointTable) (offset : Int) (point : Point) : PointTable :=
  let position := ⟨point.row + 1, charColumn table.source offset point.column⟩
  { table with entries := (offset, position) :: table.entries.filter fun entry => entry.1 ≠ offset }

/-- Record the points that the source has at both ends of a span. -/
def recordSpan (table : PointTable) (span : Span) : PointTable :=
  (table.record span.start (pointAt table.source span.start)).record span.stop
    (pointAt table.source span.stop)

/-- The number of offsets with a position. -/
def size (table : PointTable) : Nat :=
  table.entries.length

/-- The position recorded for an offset. -/
def resolve (table : PointTable) (offset : Int) : Except LocationError Position :=
  match table.entries.lookup offset with
  | some position => .ok position
  | none => .error (.unrecorded offset)

end PointTable

end StoryCatalog
