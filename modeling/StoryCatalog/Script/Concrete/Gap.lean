import StoryCatalog.Script.Character

/-!
# Gaps between tokens

Between two tokens of a script there may be blanks and comments. A line end in such a gap can stand
for the semicolon of a statement: `lineEnd` says when it does. It looks at the first character
behind the line end and refuses those that go on with an expression.
-/

namespace StoryCatalog.Script.Concrete

/-- The character at an index, and NUL past the end. -/
def charAt (source : Array Char) (index : Nat) : Char :=
  source.getD index '\x00'

/-- Line feed, line separator and paragraph separator end a line. -/
def isLineEnd (c : Char) : Bool :=
  c == '\n' || c.toNat == 0x2028 || c.toNat == 0x2029

/-- A line end, or the NUL that also marks the end of a script. -/
def endsLine (c : Char) : Bool :=
  c == '\x00' || isLineEnd c

/-- A space that may break a line. -/
def isBreakingSpace (c : Char) : Bool :=
  let n := c.toNat
  (0x09 ≤ n && n ≤ 0x0D) || n == 0x20
    || (0x1680 ≤ n && (n == 0x1680 || (0x2000 ≤ n && n ≤ 0x2006) || (0x2008 ≤ n && n ≤ 0x200A)
      || n == 0x2028 || n == 0x2029 || n == 0x205F || n == 0x3000))

/-- A character that may stand between two tokens. -/
def isGap (c : Char) : Bool :=
  let n := c.toNat
  isBreakingSpace c
    || (0x80 ≤ n && (n == 0xA0 || n == 0x2007 || n == 0x200B || n == 0x202F || n == 0x2060
      || n == 0xFEFF))

/-- The index behind the characters of a class. -/
def skipWhile (p : Char → Bool) (source : Array Char) (index : Nat) : Nat :=
  if h : index < source.size then
    if p source[index] then skipWhile p source (index + 1) else index
  else index
termination_by source.size - index

/-- The source has this text at an index. -/
def hasAt (source : Array Char) (index : Nat) : List Char → Bool
  | [] => true
  | c :: rest => index < source.size && charAt source index == c && hasAt source (index + 1) rest

/-! ## Comments -/

/-- The index behind the next mark that closes a block comment. -/
def blockEnd? (source : Array Char) (index : Nat) : Option Nat :=
  if index + 1 < source.size then
    if charAt source index == '*' && charAt source (index + 1) == '/' then some (index + 2)
    else blockEnd? source (index + 1)
  else none
termination_by source.size - index

/-- The index behind a comment that starts here. -/
def commentEnd? (source : Array Char) (index : Nat) : Option Nat :=
  if charAt source index != '/' then none
  else if charAt source (index + 1) == '/' then
    some (skipWhile (fun c => c != '\r' && !isLineEnd c) source (index + 2))
  else if charAt source (index + 1) == '*' then blockEnd? source (index + 2)
  else none

/-- The first index of a comment in the marks of a document behind the blanks here, and the index
behind it. Such a comment runs to the end of its line. -/
def legacyComment? (source : Array Char) (index : Nat) : Option (Nat × Nat) :=
  let start := skipWhile isBreakingSpace source index
  if hasAt source start ['<', '!', '-', '-'] then
    some (start, skipWhile (fun c => !endsLine c) source (start + 4))
  else if hasAt source start ['-', '-', '>'] then
    some (start, skipWhile (fun c => !endsLine c) source (start + 3))
  else none

/-! ## Line ends that stand for a semicolon -/

/-- What a look past blanks and comments finds: a slash that is no comment, the next token, or the
end of a block comment without a line end in it. -/
inductive Found where
  | slash
  | token
  | comment
deriving DecidableEq, Repr

/-- What a look past blanks and comments finds, where, and whether there was a comment. -/
structure Glance where
  found : Found
  index : Nat
  commented : Bool

/-- Look past blanks and comments, over all of them or up to the end of a block comment. `crossed`
says that a block comment before had a line end in it. -/
def glance (all : Bool) (source : Array Char) : Nat → Nat → Bool → Bool → Glance
  | 0, index, _, commented => ⟨.slash, index, commented⟩
  | rounds + 1, index, crossed, commented =>
      let index := skipWhile isBreakingSpace source index
      if charAt source index != '/' then ⟨.token, index, commented⟩
      else if charAt source (index + 1) == '/' then
        glance all source rounds (skipWhile (fun c => !endsLine c) source (index + 2)) crossed true
      else if charAt source (index + 1) == '*' then
        match blockEnd? source (index + 2) with
        | none => ⟨.token, source.size, commented⟩
        | some stop =>
            let crossed := crossed || skipWhile (fun c => !isLineEnd c) source index < stop
            if !all && charAt source stop != '/' then
              ⟨if crossed then .token else .comment, stop, true⟩
            else glance all source rounds stop crossed true
      else ⟨.slash, index + 1, commented⟩

/-- A letter, of ASCII or beyond. -/
def isLetter (c : Char) : Bool :=
  isAsciiLetter c.toNat || (0x80 ≤ c.toNat && isNameStart c.toNat)

/-- The word at an index goes on with this text and no letter follows. -/
def endsWord (source : Array Char) (index : Nat) (text : List Char) : Bool :=
  hasAt source index text && !isLetter (charAt source (index + text.length))

/-- A statement may end before the token at an index on a new line. -/
def startsStatement (source : Array Char) (index : Nat) : Bool :=
  let c := charAt source index
  let next := charAt source (index + 1)
  if c == '\x60' || c == ',' || c == ':' || c == ';' || c == '*' || c == '%' || c == '>' || c == '<'
      || c == '=' || c == '[' || c == '(' || c == '?' || c == '^' || c == '|' || c == '&'
      || c == '/' then false
  else if c == '.' then isDecimalDigit next
  else if c == '+' || c == '-' then next == c
  else if c == '!' then next != '='
  else !(endsWord source index ['i', 'n']
    || endsWord source index ['i', 'n', 's', 't', 'a', 'n', 'c', 'e', 'o', 'f'])

/-- Whether a line end stands for a semicolon, and if not, whether a comment was passed and where
the look ended. -/
inductive LineEnd where
  | holds
  | fails (commented : Bool) (index : Nat)
deriving DecidableEq, Repr

/-- Whether the gap that starts here stands for a semicolon. Behind an expression a comment that
crosses a line end does not count as one. -/
def lineEnd (afterExpression : Bool) (source : Array Char) : Nat → Nat → Bool → LineEnd
  | 0, index, commented => .fails commented index
  | rounds + 1, index, commented =>
      let seen : Glance :=
        if charAt source index == '/' then
          glance false source (source.size + 1) index false commented
        else ⟨.comment, index, commented⟩
      let c := charAt source seen.index
      if charAt source index == '\x00' then .holds
      else if seen.found == .slash then .fails seen.commented seen.index
      else if seen.found == .token && !afterExpression && c != ',' && c != '=' then .holds
      else if c == '\x7d' then .holds
      else if isLineEnd c then
        let ahead := glance true source (source.size + 1) (seen.index + 1) false seen.commented
        if ahead.found != .slash && startsStatement source ahead.index then .holds
        else .fails ahead.commented ahead.index
      else if !isBreakingSpace c then .fails seen.commented seen.index
      else lineEnd afterExpression source rounds (seen.index + 1) seen.commented

/-- The index behind the question mark of a condition. It starts no other operator, and a point
behind it must start a number. -/
def questionEnd? (source : Array Char) (index : Nat) : Option Nat :=
  let index := skipWhile isBreakingSpace source index
  let next := charAt source (index + 1)
  if charAt source index != '?' || next == '?'
      || (next == '.' && !isDecimalDigit (charAt source (index + 2))) then none
  else some (index + 1)

end StoryCatalog.Script.Concrete
