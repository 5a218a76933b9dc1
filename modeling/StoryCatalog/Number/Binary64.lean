/-!
# Binary floating-point numbers

A finite number is a mantissa below `2^53` times a power of two. A decimal number is read as the
nearest such number, a tie going to the even mantissa, all in exact arithmetic.
-/

namespace StoryCatalog

/-- A binary floating-point number of 64 bits. A finite number is `mantissa * 2 ^ exponent`, and its
exponent is the least one that its size admits. -/
inductive Binary64 where
  | finite (negative : Bool) (mantissa : Nat) (exponent : Int)
  | infinite (negative : Bool)
  | nan
deriving DecidableEq, Repr

namespace Binary64

/-- The least exponent. -/
def leastExponent : Int := -1074

/-- The greatest exponent of a finite number. -/
def greatestExponent : Int := 971

/-- The least mantissa of 53 bits. -/
def leastFull : Nat := 0x10000000000000

/-- A quotient rounded to the nearest integer, a tie going to the even one. -/
def roundDiv (numerator denominator : Nat) : Nat :=
  let quotient := numerator / denominator
  let twice := 2 * (numerator % denominator)
  if twice < denominator then quotient
  else if denominator < twice then quotient + 1
  else quotient + quotient % 2

/-- The quotient of two numbers by a power of two, as a numerator and a denominator. -/
def scaled (numerator denominator : Nat) (exponent : Int) : Nat × Nat :=
  if 0 ≤ exponent then (numerator, denominator * Nat.pow 2 exponent.toNat)
  else (numerator * Nat.pow 2 (-exponent).toNat, denominator)

/-- The exponent for a quotient: the mantissa has 53 bits unless the exponent is the least one. -/
def exponentFor (numerator denominator : Nat) : Int :=
  let guess : Int := (numerator.log2 : Int) - denominator.log2 - 52
  let (n, d) := scaled numerator denominator guess
  let exponent := if n / d < leastFull then guess - 1 else guess
  max exponent leastExponent

/-- The number nearest to a quotient. -/
def ofQuotient (negative : Bool) (numerator denominator : Nat) : Binary64 :=
  let exponent := exponentFor numerator denominator
  let (n, d) := scaled numerator denominator exponent
  let mantissa := roundDiv n d
  let (mantissa, exponent) :=
    if mantissa = 2 * leastFull then (leastFull, exponent + 1) else (mantissa, exponent)
  if greatestExponent < exponent then .infinite negative
  else .finite negative mantissa exponent

/-- The number of decimal digits. -/
def digitCount (n : Nat) : Nat :=
  (Nat.toDigits 10 n).length

/-- The number nearest to `digits * 10 ^ exponent`. Numbers that are far too large or too small are
settled without forming the power. -/
def ofDecimal (negative : Bool) (digits : Nat) (exponent : Int) : Binary64 :=
  let size := exponent + digitCount digits
  if digits = 0 || size < -400 then .finite negative 0 leastExponent
  else if 400 < size then .infinite negative
  else if 0 ≤ exponent then ofQuotient negative (digits * Nat.pow 10 exponent.toNat) 1
  else ofQuotient negative digits (Nat.pow 10 (-exponent).toNat)

/-- The number as an integer, if it is one. -/
def toInt? : Binary64 → Option Int
  | .finite negative mantissa exponent =>
      let size : Option Nat :=
        if 0 ≤ exponent then some (mantissa * Nat.pow 2 exponent.toNat)
        else
          let scale := Nat.pow 2 (-exponent).toNat
          if mantissa % scale = 0 then some (mantissa / scale) else none
      size.map fun n => if negative then -(n : Int) else n
  | _ => none

/-- The number is finite. -/
def isFinite : Binary64 → Bool
  | .finite .. => true
  | _ => false

end Binary64

end StoryCatalog
