import StoryCatalog.Toml.Reading

/-!
# Texts, numbers and moments in settings
-/

namespace StoryCatalog

namespace Toml

/-! ## Texts -/

/-- The character with a hexadecimal number of this many digits. -/
def hexCharacter (width : Nat) : P CodePoint := do
  let start ← get
  let digits ← textBetween start (start + width)
  if digits.length ≠ width || !digits.all isHexDigit then refuse .hexValue
  advance width
  match CodePoint.ofNat? (numberValue 16 digits) with
  | some c => if c.isSurrogate then refuse .notScalar else return c
  | none => refuse .notScalar

/-- What a letter stands for behind a backslash. -/
def escapeValue? (c : CodePoint) : Option CodePoint :=
  if c = 0x62 then some 0x08
  else if c = 0x74 then some 0x09
  else if c = 0x6E then some 0x0A
  else if c = 0x66 then some 0x0C
  else if c = 0x72 then some 0x0D
  else if c = 0x22 || c = 0x5C then some c
  else none

/-- An escape. In a text of several lines a backslash before a line end takes away the line end and
all blanks behind it. -/
def escape (multiline : Bool) : P Text := do
  let second ← peek 1
  advance 2
  match second with
  | none => refuse .unescaped
  | some c =>
      if multiline && isBlankOrNewline c then
        if c ≠ 0x0A then
          skip isBlank
          match ← peek 0 with
          | none => return []
          | some d =>
              if d ≠ 0x0A then refuse .unescaped
              advance 1
        skip isBlankOrNewline
        return []
      else if c = 0x75 then return [← hexCharacter 4]
      else if c = 0x55 then return [← hexCharacter 8]
      else
        match escapeValue? c with
        | some value => return [value]
        | none => refuse .unescaped

/-- A text behind its opening double quotes. -/
def basicText (multiline : Bool) : P Text :=
  repeatStep ([] : Text) fun read => do
    match ← peek 0 with
    | none => refuse .unterminated
    | some c =>
        if c = 0x22 then
          if !multiline then
            advance 1
            return .inr read
          else if ← looks "\"\"\"" then
            advance 3
            return .inr read
          else
            advance 1
            return .inl (read ++ [c])
        else if c = 0x5C then return .inl (read ++ (← escape multiline))
        else if (if multiline then isControlInLines c else isControl c) then refuse (.illegal c)
        else
          advance 1
          return .inl (read ++ [c])

/-- A text behind its opening single quote. -/
def literalText : P Text := do
  let start ← get
  skipTo "'" true isControl
  let text ← textBetween start (← get)
  advance 1
  return text

/-- A text of several lines. Up to two quotes may stand before the closing ones. -/
def multilineText (literal : Bool) : P Text := do
  advance 3
  if (← peek 0) == some 0x0A then advance 1
  let mark : CodePoint := if literal then 0x27 else 0x22
  let text ←
    if literal then
      let start ← get
      skipTo "'''" true isControlInLines
      let text ← textBetween start (← get)
      advance 3
      pure text
    else basicText true
  if (← peek 0) ≠ some mark then return text
  advance 1
  if (← peek 0) ≠ some mark then return text ++ [mark]
  advance 1
  return text ++ [mark, mark]

/-! ## Numbers -/

/-- The index behind more digits of a class, with single underscores between them. -/
def moreDigits (p : CodePoint → Bool) (source : Array CodePoint) : Nat → Nat → Nat
  | 0, index => index
  | rounds + 1, index =>
      let isDigitAt (index : Nat) := (source[index]?.map p).getD false
      if isDigitAt index then moreDigits p source rounds (index + 1)
      else if source[index]? == some 0x5F && isDigitAt (index + 1) then
        moreDigits p source rounds (index + 2)
      else index

/-- The index behind digits of a class, the first of which stands here; the index itself if none
does. -/
def digitsEnd (p : CodePoint → Bool) (source : Array CodePoint) (index : Nat) : Nat :=
  if (source[index]?.map p).getD false then moreDigits p source source.size (index + 1) else index

/-- The index behind a sign. -/
def signEnd (source : Array CodePoint) (index : Nat) : Nat :=
  if source[index]? == some 0x2B || source[index]? == some 0x2D then index + 1 else index

/-- A number in base sixteen, two or eight, if one stands here. -/
def basedNumber? : P (Option Datum) := do
  let source ← read
  let start ← get
  let based (base : Nat) (p : CodePoint → Bool) : P (Option Datum) := do
    let stop := digitsEnd p source (start + 2)
    if stop == start + 2 then return none
    else
      set stop
      return some (.integer (numberValue base (← textBetween (start + 2) stop)))
  if ← looks "0x" then based 16 isHexDigit
  else if ← looks "0b" then based 2 fun c => c = 0x30 || c = 0x31
  else if ← looks "0o" then based 8 fun c => 0x30 ≤ c.val && c.val ≤ 0x37
  else return none

/-- A decimal number, if one stands here. With a fraction or an exponent it is a floating-point
number. -/
def decimalNumber? : P (Option Datum) := do
  let source ← read
  let start ← get
  let wholeStart := signEnd source start
  let wholeStop :=
    if source[wholeStart]? == some 0x30 then wholeStart + 1 else digitsEnd isDigit source wholeStart
  if wholeStop == wholeStart then return none
  let negative := source[start]? == some 0x2D
  let fractionStop :=
    if source[wholeStop]? == some 0x2E then
      let stop := digitsEnd isDigit source (wholeStop + 1)
      if stop == wholeStop + 1 then wholeStop else stop
    else wholeStop
  let exponentStart := signEnd source (fractionStop + 1)
  let exponentStop :=
    if source[fractionStop]? == some 0x65 || source[fractionStop]? == some 0x45 then
      let stop := digitsEnd isDigit source exponentStart
      if stop == exponentStart then fractionStop else stop
    else fractionStop
  set exponentStop
  let whole ← textBetween wholeStart wholeStop
  if exponentStop == wholeStop then
    let count := (whole.filter (· ≠ 0x5F)).length
    if Text.mostDigits < count then refuse (.tooLong count)
    let n : Int := numberValue 10 whole
    return some (.integer (if negative then -n else n))
  else
    let fraction := (← textBetween (wholeStop + 1) fractionStop).filter (· ≠ 0x5F)
    let size : Int := numberValue 10 (← textBetween exponentStart exponentStop)
    let exponent := if source[fractionStop + 1]? == some 0x2D then -size else size
    return some (.real (Binary64.ofDecimal negative (numberValue 10 (whole ++ fraction))
      (exponent - fraction.length)))

/-- A number that no digits write, if one stands here. -/
def specialNumber? : P (Option Datum) := do
  let source ← read
  let start ← signEnd source <$> get
  let negative := (← peek 0) == some 0x2D
  if hasAt source start "inf" then
    set (start + 3)
    return some (.real (.infinite negative))
  else if hasAt source start "nan" then
    set (start + 3)
    return some (.real .nan)
  else return none

/-! ## Moments -/

/-- A number of this many digits at an index. -/
def fieldAt? (source : Array CodePoint) (index width : Nat) : Option Nat :=
  let digits := (source.extract index (index + width)).toList
  if digits.length = width && digits.all isDigit then some (numberValue 10 digits) else none

/-- A time of a day at an index, and the index behind it. -/
def clockAt? (source : Array CodePoint) (index : Nat) : Option (Clock × Nat) := do
  let hour ← fieldAt? source index 2
  let minute ← fieldAt? source (index + 3) 2
  let second ← fieldAt? source (index + 6) 2
  if source[index + 2]? == some 0x3A && source[index + 5]? == some 0x3A && hour < 24 && minute < 60
      && second < 60 then
    let stop := behind isDigit source (index + 9)
    if source[index + 8]? == some 0x2E && index + 9 < stop then
      let digits := (source.extract (index + 9) (min stop (index + 15))).toList
      some (⟨hour, minute, second, numberValue 10 digits * Nat.pow 10 (6 - digits.length)⟩, stop)
    else some (⟨hour, minute, second, 0⟩, index + 8)
  else none

/-- The offset from universal time at an index in minutes, and the index behind it. -/
def offsetAt? (source : Array CodePoint) (index : Nat) : Option (Int × Nat) := do
  let c ← source[index]?
  if c = 0x5A || c = 0x7A then some (0, index + 1)
  else if c = 0x2B || c = 0x2D then
    let hour ← fieldAt? source (index + 1) 2
    let minute ← fieldAt? source (index + 4) 2
    if source[index + 3]? == some 0x3A && hour < 24 && minute < 60 then
      let size : Int := hour * 60 + minute
      some (if c = 0x2D then -size else size, index + 6)
    else none
  else none

/-- A day at an index. -/
def dayAt? (source : Array CodePoint) (index : Nat) : Option Day := do
  let year ← fieldAt? source index 4
  let month ← fieldAt? source (index + 5) 2
  let day ← fieldAt? source (index + 8) 2
  if source[index + 4]? == some 0x2D && source[index + 7]? == some 0x2D && 1 ≤ month && month ≤ 12
      && 1 ≤ day && day ≤ 31 then
    some ⟨year, month, day⟩
  else none

/-- The number of days of a month. -/
def monthLength (year month : Nat) : Nat :=
  if month = 2 then
    if year % 4 = 0 && (year % 100 ≠ 0 || year % 400 = 0) then 29 else 28
  else if month = 4 || month = 6 || month = 9 || month = 11 then 30
  else 31

/-- A moment, if one stands here. A day must be one of the calendar. -/
def moment? : P (Option Datum) := do
  let source ← read
  let start ← get
  match dayAt? source start with
  | some day =>
      if day.year = 0 || monthLength day.year day.month < day.day then refuse .invalidDate
      let separator :=
        (source[start + 10]?.map fun c => c = 0x54 || c = 0x74 || c = 0x20).getD false
      match if separator then clockAt? source (start + 11) else none with
      | none =>
          set (start + 10)
          return some (.moment (.day day))
      | some (clock, stop) =>
          match offsetAt? source stop with
          | some (offset, stop) =>
              set stop
              return some (.moment (.dayClock day clock (some offset)))
          | none =>
              set stop
              return some (.moment (.dayClock day clock none))
  | none =>
      match clockAt? source start with
      | some (clock, stop) =>
          set stop
          return some (.moment (.clock clock))
      | none => return none

end Toml

end StoryCatalog
