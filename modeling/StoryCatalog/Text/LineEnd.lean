import StoryCatalog.Text.Utf8

/-!
# Line ends of files

In files a line may end with a line feed, a carriage return or both. Texts read from files have line
feeds only.
-/

namespace StoryCatalog

/-- The text with every line end written as a line feed. -/
def Text.unifyLineEnds : Text → Text
  | [] => []
  | [c] => if c = 0x0D then [0x0A] else [c]
  | c :: d :: rest =>
      if c = 0x0D then
        if d = 0x0A then unifyLineEnds (d :: rest) else 0x0A :: unifyLineEnds (d :: rest)
      else c :: unifyLineEnds (d :: rest)

/-- Read the text of a file. -/
def readText (content : Bytes) : Except Utf8.IllFormed Text := do
  return (← Utf8.decode content).unifyLineEnds

end StoryCatalog
