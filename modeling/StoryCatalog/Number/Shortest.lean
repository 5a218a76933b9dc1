import StoryCatalog.Number.Binary64
import StoryCatalog.Text.Basic

/-!
# Shortest decimal text of floating-point numbers

A floating-point number is written with the fewest decimal digits that read back as it. Of the
decimal numbers with that many digits that do, the nearest one is taken, and of two that are equally
near the one whose last digit is even.
-/

namespace StoryCatalog

namespace Binary64

/-- `digits * 10 ^ exponent`. -/
structure Decimal where
  digits : Nat
  exponent : Int
deriving DecidableEq, Repr

/-- Two numbers `first * 2 ^ exponent` and `second * 10 ^ power` on a common scale. -/
def compared (first : Nat) (exponent : Int) (second : Nat) (power : Int) : Nat × Nat :=
  (first * Nat.pow 2 exponent.toNat * Nat.pow 10 (-power).toNat,
    second * Nat.pow 10 power.toNat * Nat.pow 2 (-exponent).toNat)

/-- The power of ten of the first digit of `mantissa * 2 ^ exponent`. -/
def leadingPower (mantissa : Nat) (exponent : Int) : Int :=
  if 0 ≤ exponent then (digitCount (mantissa * Nat.pow 2 exponent.toNat) : Int) - 1
  else
    let places := (-exponent).toNat
    (digitCount (mantissa * Nat.pow 5 places) : Int) - 1 - places

/-- The decimal number reads back as `mantissa * 2 ^ exponent`: it lies no further away than half
the distance to the neighbours, and at half the distance the mantissa must be even. -/
def readsBack (mantissa : Nat) (exponent : Int) (candidate : Decimal) : Bool :=
  let below := if mantissa = leastFull && leastExponent < exponent then 1 else 2
  let (low, value) :=
    compared (4 * mantissa - below) (exponent - 2) candidate.digits candidate.exponent
  let (high, _) := compared (4 * mantissa + 2) (exponent - 2) candidate.digits candidate.exponent
  if mantissa % 2 = 0 then low ≤ value && value ≤ high else low < value && value < high

/-- The distance of a decimal number from `mantissa * 2 ^ exponent`, on the scale of both. -/
def distance (mantissa : Nat) (exponent : Int) (candidate : Decimal) : Nat :=
  let (first, second) := compared mantissa exponent candidate.digits candidate.exponent
  (first - second) + (second - first)

/-- The nearest decimal number with this many digits that reads back, if there is one. -/
def withDigits? (mantissa : Nat) (exponent : Int) (count : Nat) : Option Decimal :=
  let power := leadingPower mantissa exponent + 1 - count
  let (n, d) := compared mantissa exponent 1 power
  let lower : Decimal := ⟨n / d, power⟩
  let upper : Decimal := ⟨n / d + 1, power⟩
  match readsBack mantissa exponent lower, readsBack mantissa exponent upper with
  | true, true =>
      match compare (distance mantissa exponent lower) (distance mantissa exponent upper) with
      | .lt => some lower
      | .gt => some upper
      | .eq => some (if lower.digits % 2 = 0 then lower else upper)
  | true, false => some lower
  | false, true => some upper
  | false, false => none

/-- The shortest decimal number that reads back as `mantissa * 2 ^ exponent`. -/
def shortest (mantissa : Nat) (exponent : Int) : Decimal :=
  ((List.range 17).findSome? fun count => withDigits? mantissa exponent (count + 1)).getD
    ⟨mantissa, 0⟩

/-- How floating-point numbers are written: the powers of ten of the first digit for which they are
written without an exponent, whether a positive exponent has a sign, and the least number of its
digits. -/
structure Format where
  least : Int
  most : Int
  plus : Bool
  width : Nat

/-- Zeros at the end of the digits moved into the exponent. -/
def Decimal.trimmed (number : Decimal) : List Char × Int :=
  let digits := Nat.toDigits 10 number.digits
  let kept := (digits.reverse.dropWhile (· == '0')).reverse
  (kept, number.exponent + (digits.length - kept.length : Nat))

/-- Digits with a point behind the first `whole` of them, zeros filling what is missing. -/
def positional (digits : List Char) (whole : Int) : List Char :=
  if whole ≤ 0 then '0' :: '.' :: (List.replicate (-whole).toNat '0' ++ digits)
  else
    let front := digits.take whole.toNat
    let back := digits.drop whole.toNat
    front ++ List.replicate (whole.toNat - front.length) '0' ++ '.' ::
      (if back.isEmpty then ['0'] else back)

/-- Digits with a point behind the first one and a power of ten. -/
def scientific (format : Format) (digits : List Char) (power : Int) : List Char :=
  let size := Nat.toDigits 10 power.natAbs
  let sign := if power < 0 then ['-'] else if format.plus then ['+'] else []
  digits.take 1 ++ (if digits.length ≤ 1 then [] else '.' :: digits.drop 1)
    ++ 'e' :: (sign ++ List.replicate (format.width - size.length) '0' ++ size)

/-- The text of a floating-point number. -/
def render (format : Format) : Binary64 → Text
  | .nan => "nan"
  | .infinite negative => if negative then "-inf" else "inf"
  | .finite negative mantissa exponent =>
      let body :=
        if mantissa = 0 then ['0', '.', '0']
        else
          let (digits, exponent) := (shortest mantissa exponent).trimmed
          let power := exponent + digits.length - 1
          if format.least ≤ power && power ≤ format.most then positional digits (power + 1)
          else scientific format digits power
      ((if negative then ['-'] else []) ++ body).map CodePoint.ofChar

/-- In messages an exponent has a sign and two digits, and numbers from a ten-thousandth up to
sixteen digits have none. -/
def messageFormat : Format := ⟨-4, 15, true, 2⟩

/-- In artifacts an exponent has a sign, and numbers from a hundred-thousandth up to sixteen digits
have none. -/
def artifactFormat : Format := ⟨-5, 15, true, 1⟩

end Binary64

end StoryCatalog
