import StoryCatalog.Text.Blank
import StoryCatalog.Text.Digit

/-!
# Escape sequences of string literals

The text that one escape sequence of a string literal stands for. A sequence that denotes no code
point stands for itself.
-/

namespace StoryCatalog

namespace Escape

/-- The blanks that may stand around a number: those of ASCII without the four separators, and those
of the rest of Unicode. -/
def isNumberBlank (c : CodePoint) : Bool :=
  if c.val < 0x80 then (0x09 ≤ c.val && c.val ≤ 0x0D) || c.val == 0x20 else c.isBlank

/-- The value of digits of a base with single underscores between them. `value` is what the digits
read so far amount to and `afterDigit` says that one has just been read. -/
def digitsValue? (base value : Nat) (afterDigit : Bool) : Text → Option Nat
  | [] => if afterDigit then some value else none
  | c :: rest =>
      if c = 0x5F then if afterDigit then digitsValue? base value false rest else none
      else
        match c.digitValue? with
        | some digit =>
            if digit < base then digitsValue? base (value * base + digit) true rest else none
        | none => none

/-- The digits behind an optional `0x`, which one underscore may follow. -/
def stripMark : Text → Text
  | 0x30 :: x :: rest =>
      if x = 0x78 || x = 0x58 then
        match rest with
        | 0x5F :: rest => rest
        | rest => rest
      else 0x30 :: x :: rest
  | t => t

/-- An integer of a base, with blanks around it and a sign allowed, and in base sixteen also the
mark `0x`. -/
def integer? (base : Nat) (t : Text) : Option Int :=
  let body := ((t.dropWhile isNumberBlank).reverse.dropWhile isNumberBlank).reverse
  let size (digits : Text) : Option Nat :=
    digitsValue? base 0 false (if base = 16 then stripMark digits else digits)
  match body with
  | 0x2D :: rest => (size rest).map fun n => -(n : Int)
  | 0x2B :: rest => (size rest).map fun n => (n : Int)
  | rest => (size rest).map fun n => (n : Int)

/-- The code point with this number. -/
def pointOfInt? (n : Int) : Option CodePoint :=
  if n < 0 then none else CodePoint.ofNat? n.toNat

/-- The characters that a single letter behind the backslash stands for. -/
def letterValue? : Text → Option CodePoint
  | [c] =>
      if c = 0x62 then some 0x08
      else if c = 0x66 then some 0x0C
      else if c = 0x6E then some 0x0A
      else if c = 0x72 then some 0x0D
      else if c = 0x74 then some 0x09
      else if c = 0x76 then some 0x0B
      else if c = 0x30 then some 0x00
      else none
  | _ => none

/-- Line feed, carriage return, line separator and paragraph separator. -/
def isLineTerminator (c : CodePoint) : Bool :=
  c == 0x0A || c == 0x0D || c == 0x2028 || c == 0x2029

/-- A brace, which may enclose the digits of a code point. -/
def isBrace (c : CodePoint) : Bool :=
  c == 0x7B || c == 0x7D

/-- The text without the braces at either end. -/
def stripBraces (t : Text) : Text :=
  ((t.dropWhile isBrace).reverse.dropWhile isBrace).reverse

/-- What an escape sequence, given with its backslash, stands for. -/
def decode (raw : Text) : Text :=
  match raw.drop 1 with
  | [] => raw
  | first :: rest =>
      match letterValue? (first :: rest) with
      | some c => [c]
      | none =>
          if isLineTerminator first then []
          else if (first = 0x75 || first = 0x78) && !rest.isEmpty then
            match (integer? 16 (stripBraces rest)).bind pointOfInt? with
            | some c => [c]
            | none => raw
          else first :: rest

/-- The digits zero to seven. -/
def isOctalDigit (c : CodePoint) : Bool :=
  0x30 ≤ c.val && c.val ≤ 0x37

/-- An octal escape that strict code does not allow: two or three octal digits, or one that is not
zero. -/
def isLegacyOctal : Text → Bool
  | [0x5C, a] => isOctalDigit a && a != 0x30
  | [0x5C, a, b] => isOctalDigit a && isOctalDigit b
  | [0x5C, a, b, c] => isOctalDigit a && isOctalDigit b && isOctalDigit c
  | _ => false

end Escape

end StoryCatalog
