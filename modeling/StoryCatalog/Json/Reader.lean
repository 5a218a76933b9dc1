import StoryCatalog.Datum.Basic
import StoryCatalog.Text.Utf8

/-!
# Reading data from JSON

A strict reader: no blanks but space, tab and line ends, no control characters and no lone
surrogates in strings, no leading zeros, and a bound on how deep lists and tables are nested. Of two
entries with one name the last one counts. An integer that fits into no 64 bits is read as a
floating-point number, and a number that is too large for one is refused.
-/

namespace StoryCatalog

namespace Json

/-- A blank between tokens. -/
def isBlank (c : CodePoint) : Bool :=
  c = 0x20 || c = 0x09 || c = 0x0A || c = 0x0D

/-- The text behind its leading blanks. -/
def skipBlanks (t : Text) : Text :=
  t.dropWhile isBlank

/-- A decimal digit. -/
def isDigit (c : CodePoint) : Bool :=
  0x30 ≤ c.val && c.val ≤ 0x39

/-- The number that decimal digits write. -/
def digitsValue (digits : Text) : Nat :=
  digits.foldl (fun n c => 10 * n + (c.val - 0x30)) 0

/-- The value of a hexadecimal digit. -/
def hexValue? (c : CodePoint) : Option Nat :=
  if isDigit c then some (c.val - 0x30)
  else if 0x41 ≤ c.val && c.val ≤ 0x46 then some (c.val - 0x41 + 10)
  else if 0x61 ≤ c.val && c.val ≤ 0x66 then some (c.val - 0x61 + 10)
  else none

/-- Four hexadecimal digits at the front. -/
def hexFour? : Text → Option (Nat × Text)
  | a :: b :: c :: d :: rest => do
      let a ← hexValue? a
      let b ← hexValue? b
      let c ← hexValue? c
      let d ← hexValue? d
      return (((a * 16 + b) * 16 + c) * 16 + d, rest)
  | _ => none

/-- The character of an escape behind its `u`. Two escapes write a character beyond the first
plane, and one half of such a pair alone is refused. -/
def unicodeEscape? (t : Text) : Option (CodePoint × Text) := do
  let (high, rest) ← hexFour? t
  if 0xD800 ≤ high && high < 0xDC00 then
    match rest with
    | 0x5C :: 0x75 :: rest =>
        let (low, rest) ← hexFour? rest
        if 0xDC00 ≤ low && low < 0xE000 then
          let c ← CodePoint.ofNat? (0x10000 + (high - 0xD800) * 0x400 + (low - 0xDC00))
          return (c, rest)
        else none
    | _ => none
  else if 0xDC00 ≤ high && high < 0xE000 then none
  else
    let c ← CodePoint.ofNat? high
    return (c, rest)

/-- The character of an escape of one letter. -/
def shortEscape? (c : CodePoint) : Option CodePoint :=
  if c = 0x22 || c = 0x5C || c = 0x2F then some c
  else if c = 0x62 then some 0x08
  else if c = 0x66 then some 0x0C
  else if c = 0x6E then some 0x0A
  else if c = 0x72 then some 0x0D
  else if c = 0x74 then some 0x09
  else none

/-- A string behind its opening quote. The first argument bounds its length. -/
def stringRest? : Nat → Text → Option (Text × Text)
  | 0, _ => none
  | _, [] => none
  | rounds + 1, c :: rest =>
      if c = 0x22 then some ([], rest)
      else if c = 0x5C then
        match rest with
        | [] => none
        | d :: more => do
            let (value, rest) ←
              if d = 0x75 then unicodeEscape? more
              else (shortEscape? d).map fun value => (value, more)
            let (text, rest) ← stringRest? rounds rest
            return (value :: text, rest)
      else if c.val < 0x20 then none
      else do
        let (text, rest) ← stringRest? rounds rest
        return (c :: text, rest)

/-- A string behind its opening quote. -/
def string? (t : Text) : Option (Text × Text) :=
  stringRest? (t.length + 1) t

/-- Digits at the front: at least one. -/
def digits? (t : Text) : Option (Text × Text) :=
  let digits := t.takeWhile isDigit
  if digits.isEmpty then none else some (digits, t.dropWhile isDigit)

/-- The whole part of a number: no zero in front of other digits. -/
def wholePart? (t : Text) : Option (Text × Text) :=
  match t with
  | 0x30 :: rest => if (rest.head?.map isDigit).getD false then none else some ([0x30], rest)
  | _ => digits? t

/-- The fraction of a number, empty when there is none. -/
def fraction? : Text → Option (Text × Text)
  | 0x2E :: rest => digits? rest
  | t => some ([], t)

/-- The exponent of a number, if it has one. -/
def exponent? (t : Text) : Option (Option Int × Text) :=
  match t with
  | c :: rest =>
      if c = 0x65 || c = 0x45 then
        let (negative, rest) :=
          match rest with
          | 0x2D :: rest => (true, rest)
          | 0x2B :: rest => (false, rest)
          | rest => (false, rest)
        (digits? rest).map fun (digits, rest) =>
          let size : Int := digitsValue digits
          (some (if negative then -size else size), rest)
      else some (none, t)
  | [] => some (none, [])

/-- The datum of a number: an integer if it has neither fraction nor exponent and fits into 64
bits, or else a floating-point number, which must be finite. -/
def numberValue? (negative : Bool) (whole fraction : Text) (exponent : Option Int) :
    Option Datum :=
  let n : Int := if negative then -(digitsValue whole : Int) else digitsValue whole
  if fraction.isEmpty && exponent.isNone && fitsWord n then some (.integer n)
  else
    let value := Binary64.ofDecimal negative (digitsValue (whole ++ fraction))
      (exponent.getD 0 - fraction.length)
    if value.isFinite then some (.real value) else none

/-- A number at the front. -/
def number? (t : Text) : Option (Datum × Text) := do
  let (negative, rest) :=
    match t with
    | 0x2D :: rest => (true, rest)
    | rest => (false, rest)
  let (whole, rest) ← wholePart? rest
  let (fraction, rest) ← fraction? rest
  let (exponent, rest) ← exponent? rest
  let value ← numberValue? negative whole fraction exponent
  return (value, rest)

/-- The text behind a word at its front. -/
def word? (word t : Text) : Option Text :=
  if word.isPrefixOf t then some (t.drop word.length) else none

mutual

/-- A datum at the front, behind blanks. The first argument bounds its length, and lists and tables
may be nested `room` deep in it. -/
def value? : Nat → Nat → Text → Option (Datum × Text)
  | 0, _, _ => none
  | rounds + 1, room, t =>
      match skipBlanks t with
      | [] => none
      | c :: rest =>
          if c = 0x22 then (string? rest).map fun (text, rest) => (.text text, rest)
          else if room = 0 && (c = 0x5B || c = 0x7B) then none
          else if c = 0x5B then
            match skipBlanks rest with
            | 0x5D :: rest => some (.list [], rest)
            | rest => (items? rounds (room - 1) rest).map fun (items, rest) => (.list items, rest)
          else if c = 0x7B then
            match skipBlanks rest with
            | 0x7D :: rest => some (.table [], rest)
            | rest =>
                (entries? rounds (room - 1) [] rest).map fun (entries, rest) =>
                  (.table entries, rest)
          else if c = 0x74 then (word? "true" (c :: rest)).map fun rest => (.bool true, rest)
          else if c = 0x66 then (word? "false" (c :: rest)).map fun rest => (.bool false, rest)
          else if c = 0x6E then (word? "null" (c :: rest)).map fun rest => (.null, rest)
          else number? (c :: rest)

/-- The items of a list up to its closing bracket. -/
def items? : Nat → Nat → Text → Option (List Datum × Text)
  | 0, _, _ => none
  | rounds + 1, room, t => do
      let (first, rest) ← value? rounds room t
      match skipBlanks rest with
      | 0x5D :: rest => return ([first], rest)
      | 0x2C :: rest =>
          let (more, rest) ← items? rounds room rest
          return (first :: more, rest)
      | _ => none

/-- The entries of a table up to its closing brace, added to the ones before. -/
def entries? : Nat → Nat → List (Text × Datum) → Text → Option (List (Text × Datum) × Text)
  | 0, _, _, _ => none
  | rounds + 1, room, before, t =>
      match skipBlanks t with
      | 0x22 :: rest => do
          let (name, rest) ← string? rest
          match skipBlanks rest with
          | 0x3A :: rest =>
              let (value, rest) ← value? rounds room rest
              let entries := Datum.put name value before
              match skipBlanks rest with
              | 0x7D :: rest => return (entries, rest)
              | 0x2C :: rest => entries? rounds room entries rest
              | _ => none
          | _ => none
      | _ => none

end

/-- How deep lists and tables may be nested. -/
def nestingLimit : Nat := 1024

/-- The datum that a text writes: one datum with nothing but blanks around it. -/
def readText (t : Text) : Option Datum :=
  match value? (t.length + 1) nestingLimit t with
  | some (value, rest) => if (skipBlanks rest).isEmpty then some value else none
  | none => none

/-- The datum that bytes write. -/
def read (bytes : Bytes) : Option Datum :=
  match Utf8.decode bytes with
  | .ok t => readText t
  | .error _ => none

end Json

end StoryCatalog
