import StoryCatalog.Location.Basic

/-!
# Positions from character offsets

A line index holds the offset at which each line of a text starts. The line of an offset is found
by bisection.
-/

namespace StoryCatalog

/-- The offsets at which lines start, ascending from zero, and the length of the text. -/
structure LineIndex where
  starts : Array Nat
  length : Nat

namespace LineIndex

/-- The offsets just behind the newlines of a text that starts at `offset`. -/
def startsAfter (offset : Nat) : Text → List Nat
  | [] => []
  | c :: rest =>
      if c = CodePoint.newline then (offset + 1) :: startsAfter (offset + 1) rest
      else startsAfter (offset + 1) rest

/-- The index of a text. -/
def ofText (t : Text) : LineIndex :=
  ⟨(0 :: startsAfter 0 t).toArray, t.length⟩

/-- How many of the starts below index `high` are at most `offset`, given that those below `low`
are and that the starts ascend. -/
def bisect (starts : Array Nat) (offset low high : Nat) : Nat :=
  if low < high then
    let middle := (low + high) / 2
    if offset < starts.getD middle 0 then bisect starts offset low middle
    else bisect starts offset (middle + 1) high
  else low
termination_by high - low

/-- The position of an offset, which may stand anywhere from the start of the text to its end. -/
def resolve (index : LineIndex) (offset : Int) : Except LocationError Position :=
  if offset < 0 ∨ index.length < offset then .error (.outside offset index.length)
  else
    let line := bisect index.starts offset.toNat 0 index.starts.size
    .ok ⟨line, offset - index.starts.getD (line - 1) 0 + 1⟩

end LineIndex

end StoryCatalog
