import StoryCatalog.Number.Shortest
import StoryCatalog.Script.Character

/-!
# Numerals in messages

A message that quotes a number shows its value, not its spelling: `0x10` is shown as sixteen and
`1e3` as a thousand.
-/

namespace StoryCatalog.Script.Strict.Numeral

/-- The number that digits write in a base. -/
def digitsValue (base : Nat) (digits : List Char) : Nat :=
  digits.foldl (fun value c => value * base + hexDigitValue c) 0

/-- The exponent that follows the digits of a decimal numeral. -/
def exponentOf : List Char → Int
  | _ :: '-' :: digits => -(digitsValue 10 digits : Int)
  | _ :: '+' :: digits => digitsValue 10 digits
  | _ :: digits => digitsValue 10 digits
  | [] => 0

/-- The floating-point number of a decimal numeral. -/
def ofDecimal (numeral : List Char) : Binary64 :=
  let whole := numeral.takeWhile isDecimalDigit
  let behind := numeral.drop whole.length
  let fraction := if behind.head? == some '.' then (behind.drop 1).takeWhile isDecimalDigit else []
  let rest := behind.dropWhile fun c => c == '.' || isDecimalDigit c
  .ofDecimal false (digitsValue 10 (whole ++ fraction)) (exponentOf rest - fraction.length)

/-- The value of a numeral as a message shows it. `isOctal` says that a leading zero marks base
eight. -/
def shown (numeral : List Char) (isOctal : Bool) : Text :=
  match numeral with
  | '0' :: mark :: digits =>
      if mark == 'x' || mark == 'X' then Text.ofNat (digitsValue 16 digits)
      else if mark == 'o' || mark == 'O' then Text.ofNat (digitsValue 8 digits)
      else if mark == 'b' || mark == 'B' then Text.ofNat (digitsValue 2 digits)
      else if isOctal then Text.ofNat (digitsValue 8 (mark :: digits))
      else decimal
  | _ => decimal
where
  /-- The value of a decimal numeral: an integer without a point. -/
  decimal : Text :=
    let value := ofDecimal numeral
    match value.toInt? with
    | some n => Text.ofInt n
    | none => value.render Binary64.messageFormat

end StoryCatalog.Script.Strict.Numeral
