/-!
# Blocks of names

The names of characters are kept in blocks. A block is a run of code points whose names start with
the same words.
-/

namespace StoryCatalog

/-- A run of characters whose names start with the same words: the first code point, these words,
and lines with how the names go on, which have commas between them. A code point without a name has
an empty place. -/
structure NameBlock where
  first : Nat
  lead : String
  lines : List String

namespace NameBlock

/-- The ends of the names in a block, one for each code point. -/
def ends (block : NameBlock) : List String :=
  block.lines.flatMap fun line => line.splitOn ","

/-- The name with this end, if it is one. -/
def nameOf? (block : NameBlock) (tail : String) : Option String :=
  if tail.isEmpty then none
  else some (if block.lead.isEmpty then tail else block.lead ++ " " ++ tail)

/-- The code point with a name in a block. -/
def find? (block : NameBlock) (name : String) : Option Nat :=
  if name.startsWith block.lead then
    (block.ends.findIdx? fun tail => block.nameOf? tail == some name).map (block.first + ·)
  else none

end NameBlock

end StoryCatalog
