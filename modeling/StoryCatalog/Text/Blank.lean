import StoryCatalog.Text.Basic

/-!
# Blank characters and normal form of names

Names are compared and identified by their words: blanks at both ends are dropped and every run of
blanks inside becomes one space.
-/

namespace StoryCatalog

/-- The white-space characters: the ASCII controls from tab to carriage return and from file
separator to unit separator, and the separators of Unicode. -/
def CodePoint.isBlank (c : CodePoint) : Bool :=
  (0x09 ≤ c.val && c.val ≤ 0x0D) || (0x1C ≤ c.val && c.val ≤ 0x20) || c.val == 0x85
    || c.val == 0xA0 || c.val == 0x1680 || (0x2000 ≤ c.val && c.val ≤ 0x200A)
    || c.val == 0x2028 || c.val == 0x2029 || c.val == 0x202F || c.val == 0x205F || c.val == 0x3000

namespace Text

/-- The text without the blanks at its end. -/
def trimRight (t : Text) : Text :=
  (t.reverse.dropWhile CodePoint.isBlank).reverse

/-- The text without the blanks at either end. -/
def trim (t : Text) : Text :=
  trimRight (t.dropWhile CodePoint.isBlank)

/-- Every run of blanks replaced by one space. `inRun` says that the previous character was a
blank. -/
def collapse (inRun : Bool) : Text → Text
  | [] => []
  | c :: rest =>
      if c.isBlank then
        if inRun then collapse true rest else CodePoint.space :: collapse true rest
      else c :: collapse false rest

/-- The normal form of a name: trimmed, with single spaces between its words. -/
def normalize (t : Text) : Text :=
  collapse false t.trim

end Text

end StoryCatalog
