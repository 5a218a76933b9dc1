import StoryCatalog.Script.Character
import StoryCatalog.Script.Strict.Complaint
import StoryCatalog.Syntax.ParseError

/-!
# The state of the strict reader

Tokens, the place in the script, and what the grammar remembers on the way. A reading step takes
the script and a state to a result and a new state, or to a complaint with its place.
-/

namespace StoryCatalog.Script.Strict

/-- The classes of tokens. The last two occur only inside markup. -/
inductive TokenType where
  | boolean
  | eof
  | identifier
  | keyword
  | null
  | numeric
  | punctuator
  | string
  | regExp
  | template
  | markupName
  | markupText
deriving DecidableEq, Repr

/-- A token. Its line is the one on which it ends. -/
structure Token where
  type : TokenType
  value : Text
  line : Nat
  lineStart : Nat
  start : Nat
  stop : Nat
  octal : Bool
  head : Bool
  tail : Bool
deriving Repr

/-- A place in the script: an index, its line and the index at which that line starts. -/
structure Marker where
  index : Nat
  line : Nat
  lineStart : Nat
deriving Repr

/-- What the grammar remembers. The two flags of the cover grammar say whether the expression just
read may be assigned to and whether it may be a binding; `coverInitializer` is a shorthand property
with an initialiser that only a pattern may have. -/
structure Context where
  allowIn : Bool
  allowYield : Bool
  allowAwait : Bool
  allowStrictDirective : Bool
  coverInitializer : Option Token
  isAssignmentTarget : Bool
  isBindingElement : Bool
  inFunctionBody : Bool
  inIteration : Bool
  inSwitch : Bool
  labels : List Text

/-- The state of a reading: the place up to which the script has been scanned, the braces that are
open (true for one that a template opened), the next token, and the places of the token ahead and
of the end of the latest one. Names are tagged as strict reserved words, and the opening of a
legacy comment loses its meaning, only once `strict` is set. -/
structure State where
  index : Nat
  line : Nat
  lineStart : Nat
  braces : List Bool
  strict : Bool
  lookahead : Token
  newlineBefore : Bool
  start : Marker
  last : Marker
  context : Context
  bound : List Token

/-- Why no tree is made of a script: it is refused at a place, or a character reference in its
markup is at fault. -/
inductive Failure where
  | refused (error : ParseError)
  | reference (fault : ReferenceFault)
deriving DecidableEq, Repr

/-- A reading step over a script. -/
abbrev P := ReaderT (Array Char) (StateT State (Except Failure))

/-- Refuse the script with a complaint about a line and a column. -/
def refuse {α : Type} (complaint : Complaint) (line : Nat) (column : Int) : P α :=
  throw (.refused ⟨"Line " ++ Text.ofNat line ++ ": " ++ complaint.message, line, column⟩)

/-- Whether the whole script has been scanned. -/
def atEnd : P Bool := do
  return (← get).index ≥ (← read).size

/-- The character at an index, and NUL past the end. -/
def charAt (index : Nat) : P Char := do
  return (← read).getD index '\x00'

/-- The character at the scanning place. -/
def current : P Char := do
  charAt (← get).index

/-- The character this far behind the scanning place. -/
def ahead (distance : Nat) : P Char := do
  charAt ((← get).index + distance)

/-- Move the scanning place on. -/
def advance (distance : Nat) : P Unit :=
  modify fun s => { s with index := s.index + distance }

/-- Put the scanning place at an index of the current line. -/
def moveTo (index : Nat) : P Unit :=
  modify fun s => { s with index }

/-- The scanning place starts a new line. -/
def newLine : P Unit :=
  modify fun s => { s with line := s.line + 1, lineStart := s.index }

/-- Refuse the script at the scanning place. -/
def scanFail {α : Type} (complaint : Complaint) : P α := do
  let s ← get
  refuse complaint s.line ((s.index : Int) - s.lineStart + 1)

/-- Repeat a step from a start value until it gives a result. The number of rounds is bounded by
the first argument; each round of a caller reads at least one character, so that a bound above the
length of the script is never reached. -/
def loop {σ α : Type} : Nat → (σ → P (σ ⊕ α)) → σ → P α
  | 0, _, _ => scanFail .illegalToken
  | rounds + 1, step, value => do
      match ← step value with
      | .inl next => loop rounds step next
      | .inr result => return result

/-- Repeat a step, with a bound that no reading reaches. -/
def repeatStep {σ α : Type} (value : σ) (step : σ → P (σ ⊕ α)) : P α := do
  loop ((← read).size + 2) step value

/-- The text of the script between two indices. -/
def textBetween (start stop : Nat) : P Text := do
  return ((← read).toList.drop start |>.take (stop - start)).map CodePoint.ofChar

end StoryCatalog.Script.Strict
