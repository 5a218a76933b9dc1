import StoryCatalog.Text.Printable

/-!
# Quoted text in messages

Messages show names between quotes: single quotes, unless the text holds a single quote and no
double quote. A backslash, the enclosing quote and every character that is not printable are
written as escapes.
-/

namespace StoryCatalog

namespace Text

/-- A hexadecimal digit below sixteen. -/
def hexDigit (n : Nat) : CodePoint :=
  CodePoint.ofChar ((Nat.toDigits 16 (n % 16)).headD '0')

/-- The last `width` hexadecimal digits of a number. -/
def hexField : Nat → Nat → Text
  | 0, _ => []
  | width + 1, n => hexField width (n / 16) ++ [hexDigit n]

/-- How a character that is not printable is written. -/
def escapeForm (c : CodePoint) : Text :=
  if c.val < 0x100 then "\\x" ++ hexField 2 c.val
  else if c.val < 0x10000 then "\\u" ++ hexField 4 c.val
  else "\\U" ++ hexField 8 c.val

/-- How a character stands between two quotes. -/
def quotedForm (quote c : CodePoint) : Text :=
  if c = quote then [0x5C, c]
  else if c = 0x5C then "\\\\"
  else if c = 0x0A then "\\n"
  else if c = 0x0D then "\\r"
  else if c = 0x09 then "\\t"
  else if c.isPrintable then [c]
  else escapeForm c

/-- The quote that encloses a text. -/
def quoteMark (t : Text) : CodePoint :=
  if t.contains 0x27 && !t.contains 0x22 then 0x22 else 0x27

/-- The text between quotes. -/
def quoted (t : Text) : Text :=
  t.quoteMark :: t.flatMap (quotedForm t.quoteMark) ++ [t.quoteMark]

end Text

end StoryCatalog
