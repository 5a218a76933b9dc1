import StoryCatalog.Datum.Basic

/-!
# The state of the settings reader

Settings are written in TOML. A reading step works at a place of the text and gives a result and a
new place, or an error with the place that it is about. A place is told by its line and column, or
as the end of the document.
-/

namespace StoryCatalog

namespace Toml

/-- The names on the way to an entry. -/
abbrev Key := List Text

/-- A key in a message. -/
def keyQuoted (key : Key) : Text :=
  match key with
  | [only] => "(" ++ only.quoted ++ ",)"
  | _ => "(" ++ Text.join ", " (key.map Text.quoted) ++ ")"

/-- Why a text cannot be read: it is no TOML, an integer in it has too many digits, or values in it
stand too deep within each other. -/
inductive Fault where
  | invalidStatement
  | statementEnd
  | equalsSign
  | keyPart
  | tableEnd
  | arrayEnd
  | declaredTwice (key : Key)
  | immutable (key : Key)
  | redefined (key : Key)
  | overwritten
  | duplicate (name : Text)
  | unclosedArray
  | unclosedTable
  | unescaped
  | hexValue
  | notScalar
  | unterminated
  | illegal (c : CodePoint)
  | invalidCharacter (c : CodePoint)
  | expected (mark : Text)
  | invalidDate
  | invalidValue
  | tooLong (digits : Nat)
  | tooDeep
deriving DecidableEq, Repr

/-- The fault in words. -/
def Fault.message : Fault → Text
  | invalidStatement => "Invalid statement"
  | statementEnd => "Expected newline or end of document after a statement"
  | equalsSign => "Expected '=' after a key in a key/value pair"
  | keyPart => "Invalid initial character for a key part"
  | tableEnd => "Expected ']' at the end of a table declaration"
  | arrayEnd => "Expected ']]' at the end of an array declaration"
  | declaredTwice key => "Cannot declare " ++ keyQuoted key ++ " twice"
  | immutable key => "Cannot mutate immutable namespace " ++ keyQuoted key
  | redefined key => "Cannot redefine namespace " ++ keyQuoted key
  | overwritten => "Cannot overwrite a value"
  | duplicate name => "Duplicate inline table key " ++ name.quoted
  | unclosedArray => "Unclosed array"
  | unclosedTable => "Unclosed inline table"
  | unescaped => "Unescaped '\\' in a string"
  | hexValue => "Invalid hex value"
  | notScalar => "Escaped character is not a Unicode scalar value"
  | unterminated => "Unterminated string"
  | illegal c => "Illegal character " ++ Text.quoted [c]
  | invalidCharacter c => "Found invalid character " ++ Text.quoted [c]
  | expected mark => "Expected " ++ mark.quoted
  | invalidDate => "Invalid date or datetime"
  | invalidValue => "Invalid value"
  | tooLong digits => Text.tooManyDigits (some digits)
  | tooDeep => Datum.tooDeep

/-- A fault at a place. -/
structure Refusal where
  fault : Fault
  index : Nat
deriving DecidableEq, Repr

/-- The line and column of a place. -/
def placeText (source : Array CodePoint) (index : Nat) : Text :=
  if source.size ≤ index then "end of document"
  else
    let before := (source.toList.take index)
    let line := before.count CodePoint.newline + 1
    let column := (before.reverse.takeWhile (· ≠ CodePoint.newline)).length + 1
    "line " ++ Text.ofNat line ++ ", column " ++ Text.ofNat column

/-- The refusal of a text in words. -/
def Refusal.message (source : Array CodePoint) (r : Refusal) : Text :=
  r.fault.message ++ " (at " ++ placeText source r.index ++ ")"

/-- A reading step. -/
abbrev P := ReaderT (Array CodePoint) (StateT Nat (Except Refusal))

/-- The character this far behind the place, if there is one. -/
def peek (distance : Nat) : P (Option CodePoint) := do
  return (← read)[(← get) + distance]?

/-- Move the place on. -/
def advance (distance : Nat) : P Unit :=
  modify (· + distance)

/-- Refuse the text at the place. -/
def refuse {α : Type} (fault : Fault) : P α := do
  throw ⟨fault, ← get⟩

/-- Refuse the text at an index. -/
def refuseAt {α : Type} (fault : Fault) (index : Nat) : P α :=
  throw ⟨fault, index⟩

/-- The index behind the characters of a class. -/
def behind (p : CodePoint → Bool) (source : Array CodePoint) (index : Nat) : Nat :=
  if h : index < source.size then
    if p source[index] then behind p source (index + 1) else index
  else index
termination_by source.size - index

/-- Skip characters of a class. -/
def skip (p : CodePoint → Bool) : P Unit := do
  set (behind p (← read) (← get))

/-- The text between two indices. -/
def textBetween (start stop : Nat) : P Text := do
  return ((← read).extract start stop).toList

/-- The source has this text at an index. -/
def hasAt (source : Array CodePoint) (index : Nat) : Text → Bool
  | [] => true
  | c :: rest => source[index]? == some c && hasAt source (index + 1) rest

/-- The place has this text. -/
def looks (t : Text) : P Bool := do
  return hasAt (← read) (← get) t

/-- The index of the next occurrence of a text. -/
def find? (t : Text) (source : Array CodePoint) (index : Nat) : Option Nat :=
  if hasAt source index t then some index
  else if index < source.size then find? t source (index + 1)
  else none
termination_by source.size - index

/-- Repeat a step from a start value until it gives a result. Each round of a caller reads at least
one character, so that the bound is never reached. -/
def loop {σ α : Type} : Nat → (σ → P (σ ⊕ α)) → σ → P α
  | 0, _, _ => refuse .invalidValue
  | rounds + 1, step, value => do
      match ← step value with
      | .inl next => loop rounds step next
      | .inr result => return result

/-- Repeat a step, with a bound that no reading reaches. -/
def repeatStep {σ α : Type} (value : σ) (step : σ → P (σ ⊕ α)) : P α := do
  loop ((← read).size + 2) step value

/-! ## Characters -/

/-- A blank inside a line. -/
def isBlank (c : CodePoint) : Bool :=
  c = 0x20 || c = 0x09

/-- A blank or a line end. -/
def isBlankOrNewline (c : CodePoint) : Bool :=
  isBlank c || c = 0x0A

/-- A control character that may not stand on a line. -/
def isControl (c : CodePoint) : Bool :=
  (c.val < 0x20 && c ≠ 0x09) || c = 0x7F

/-- A control character that may not stand in a text of several lines. -/
def isControlInLines (c : CodePoint) : Bool :=
  isControl c && c ≠ 0x0A

/-- A decimal digit. -/
def isDigit (c : CodePoint) : Bool :=
  0x30 ≤ c.val && c.val ≤ 0x39

/-- A hexadecimal digit. -/
def isHexDigit (c : CodePoint) : Bool :=
  isDigit c || (0x41 ≤ c.val && c.val ≤ 0x46) || (0x61 ≤ c.val && c.val ≤ 0x66)

/-- A character of a key that stands without quotes. -/
def isBareKey (c : CodePoint) : Bool :=
  isDigit c || (0x41 ≤ c.val && c.val ≤ 0x5A) || (0x61 ≤ c.val && c.val ≤ 0x7A) || c = 0x2D
    || c = 0x5F

/-- The value of a digit of base up to sixteen. -/
def digitValue (c : CodePoint) : Nat :=
  if isDigit c then c.val - 0x30
  else if c.val < 0x61 then c.val - 0x41 + 10
  else c.val - 0x61 + 10

/-- The number that digits write, underscores left out. -/
def numberValue (base : Nat) (t : Text) : Nat :=
  (t.filter (· ≠ 0x5F)).foldl (fun n c => base * n + digitValue c) 0

/-- Go to the next occurrence of a mark. No character of a class may stand before it. -/
def skipTo (mark : Text) (needed : Bool) (forbidden : CodePoint → Bool) : P Unit := do
  let source ← read
  let start ← get
  let stop ←
    match find? mark source start with
    | some stop => pure stop
    | none => if needed then refuseAt (.expected mark) source.size else pure source.size
  let bad := behind (fun c => !forbidden c) source start
  if bad < stop then refuseAt (.invalidCharacter (source.getD bad 0)) bad
  set stop

/-- Skip a comment. -/
def skipComment : P Unit := do
  if (← peek 0) == some 0x23 then
    advance 1
    skipTo [0x0A] false isControl

/-- Skip blanks, line ends and comments. -/
def skipGap : P Unit :=
  repeatStep () fun _ => do
    let before ← get
    skip isBlankOrNewline
    skipComment
    return if (← get) == before then .inr () else .inl ()

end Toml

end StoryCatalog
