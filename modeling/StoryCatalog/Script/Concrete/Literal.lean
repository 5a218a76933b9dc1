import StoryCatalog.Script.Concrete.Gap

/-!
# Words and literals

Where words, numbers and the pieces of strings, templates, regular expressions and markup end. A
word is any run of characters that are no blanks and no marks; some words are reserved and name
nothing but properties.
-/

namespace StoryCatalog.Script.Concrete

/-! ## Words -/

/-- A mark of ASCII or a control character. -/
def isMark (n : Nat) : Bool :=
  n < 0x30 && n != 0x24 || (0x3A ≤ n && n ≤ 0x40) || (0x5B ≤ n && n ≤ 0x5E) || n == 0x60
    || (0x7B ≤ n && n ≤ 0x7E)

/-- A character that may go on with a word. -/
def isWordPart (c : Char) : Bool :=
  !isMark c.toNat && !isGap c

/-- A character that may start a word. -/
def isWordStart (c : Char) : Bool :=
  isWordPart c && !isDecimalDigit c

/-- The index behind an escape of a code point at a backslash. -/
def codePointEscapeEnd? (source : Array Char) (index : Nat) : Option Nat :=
  if !hasAt source index ['\\', 'u'] then none
  else if charAt source (index + 2) == '\x7b' then
    let stop := skipWhile isHexDigit source (index + 3)
    if index + 3 < stop && charAt source stop == '\x7d' then some (stop + 1) else none
  else if ((source.extract (index + 2) (index + 6)).all isHexDigit) && index + 6 ≤ source.size then
    some (index + 6)
  else none

/-- The index behind the parts of a word that go on here. -/
def wordRest (source : Array Char) : Nat → Nat → Nat
  | 0, index => index
  | rounds + 1, index =>
      let index := skipWhile isWordPart source index
      match codePointEscapeEnd? source index with
      | some stop => wordRest source rounds stop
      | none => index

/-- The index behind the word that starts here, and the index itself when there is none. -/
def wordEnd (source : Array Char) (index : Nat) : Nat :=
  if (index < source.size && isWordStart (charAt source index))
      || (codePointEscapeEnd? source index).isSome then
    wordRest source (source.size + 1) index
  else index

/-- The words that name nothing but properties. -/
def reservedWords : List String :=
  ["break", "case", "catch", "class", "const", "continue", "debugger", "default", "delete", "do",
    "else", "export", "extends", "false", "finally", "for", "function", "if", "import", "in",
    "instanceof", "new", "null", "return", "super", "switch", "this", "throw", "true", "try",
    "typeof", "var", "void", "while", "with"]

/-! ## Numbers -/

/-- The index behind more digits of a class, with single underscores between them. -/
def moreDigits (p : Char → Bool) (source : Array Char) : Nat → Nat → Nat
  | 0, index => index
  | rounds + 1, index =>
      if p (charAt source index) then moreDigits p source rounds (index + 1)
      else if charAt source index == '_' && p (charAt source (index + 1)) then
        moreDigits p source rounds (index + 2)
      else index

/-- The index behind digits of a class. The first character must be one. -/
def digitsEnd (p : Char → Bool) (source : Array Char) (index : Nat) : Nat :=
  if p (charAt source index) then moreDigits p source (source.size + 1) (index + 1) else index

/-- The index behind an exponent, and the index itself when there is none. -/
def exponentEnd (source : Array Char) (index : Nat) : Nat :=
  let c := charAt source index
  if c == 'e' || c == 'E' then
    let sign := charAt source (index + 1)
    let start := if sign == '+' || sign == '-' then index + 2 else index + 1
    let stop := digitsEnd isDecimalDigit source start
    if stop == start then index else stop
  else index

/-- The index behind the whole part of a decimal number: a zero, or digits with at most one leading
zero. -/
def wholeEnd (source : Array Char) (index : Nat) : Nat :=
  let isPositive (c : Char) := isDecimalDigit c && c != '0'
  let tail (index : Nat) :=
    let start := if charAt source index == '_' then index + 1 else index
    let stop := digitsEnd isDecimalDigit source start
    if stop == start then index else stop
  if charAt source index == '0' then
    if isPositive (charAt source (index + 1)) then tail (index + 2) else index + 1
  else if isPositive (charAt source index) then tail (index + 1)
  else index

/-- The index behind a decimal number: the longest of its forms. -/
def decimalEnd (source : Array Char) (index : Nat) : Nat :=
  let digits := digitsEnd isDecimalDigit source index
  let big := if digits != index && charAt source digits == 'n' then digits + 1 else digits
  let whole := wholeEnd source index
  let fraction :=
    if charAt source whole == '.' then
      let stop := digitsEnd isDecimalDigit source (whole + 1)
      if whole == index && stop == whole + 1 then index else exponentEnd source stop
    else if whole == index then index
    else exponentEnd source whole
  max big fraction

/-- The index behind a number, and the index itself when there is none. -/
def numberEnd (source : Array Char) (index : Nat) : Nat :=
  let based (p : Char → Bool) :=
    let stop := digitsEnd p source (index + 2)
    if stop == index + 2 then index + 1
    else if charAt source stop == 'n' then stop + 1
    else stop
  let mark := charAt source (index + 1)
  if charAt source index == '0' && (mark == 'x' || mark == 'X') then based isHexDigit
  else if charAt source index == '0' && (mark == 'o' || mark == 'O') then based isOctalDigit
  else if charAt source index == '0' && (mark == 'b' || mark == 'B') then
    based fun c => c == '0' || c == '1'
  else decimalEnd source index

/-! ## Pieces of texts -/

/-- The index behind an escape in a string or template. -/
def escapeEnd? (source : Array Char) (index : Nat) : Option Nat :=
  let c := charAt source (index + 1)
  if charAt source index != '\\' || source.size ≤ index + 1 then none
  else if c == 'x' then
    if isHexDigit (charAt source (index + 2)) && isHexDigit (charAt source (index + 3)) then
      some (index + 4)
    else none
  else if c == 'u' then codePointEscapeEnd? source index
  else if isOctalDigit c then
    let stop := skipWhile isOctalDigit source (index + 1)
    some (min stop (index + 4))
  else if (c == '\r' || c == '?') && isLineEnd (charAt source (index + 2)) then some (index + 3)
  else some (index + 2)

/-- The index behind a run of characters up to one of these, and nothing if the run is empty. -/
def runEnd? (p : Char → Bool) (source : Array Char) (index : Nat) : Option Nat :=
  let stop := skipWhile p source index
  if index < stop then some stop else none

/-- The index behind the plain characters of a string in this quote. -/
def quotedEnd? (quote : Char) : Array Char → Nat → Option Nat :=
  runEnd? fun c => c != quote && c != '\\' && c != '\r' && c != '\n'

/-- The index behind the plain characters of a template. The template must be closed or go on with
an escape or a substitution. -/
def templateEnd? (source : Array Char) : Nat → Nat → Option Nat
  | 0, _ => none
  | rounds + 1, index =>
      let c := charAt source index
      if c == '\x00' then none
      else if c == '\x60' || c == '\\' || (c == '$' && charAt source (index + 1) == '\x7b') then
        some index
      else templateEnd? source rounds (index + 1)

/-! ## Regular expressions -/

/-- The index behind the slash that closes a regular expression. A slash in brackets does not. -/
def regExpEnd? (source : Array Char) : Nat → Bool → Nat → Option Nat
  | 0, _, _ => none
  | rounds + 1, inClass, index =>
      let c := charAt source index
      if source.size ≤ index || c == '\n' then none
      else if c == '\\' then
        if charAt source (index + 1) == '\n' then none
        else regExpEnd? source rounds inClass (index + 2)
      else if inClass then regExpEnd? source rounds (c != ']') (index + 1)
      else if c == '/' then some (index + 1)
      else regExpEnd? source rounds (c == '[') (index + 1)

/-! ## Markup -/

/-- The index behind a text in markup, which ends before a mark, and whether the text counts. Line
ends and the blanks behind them alone do not count. -/
def markupTextEnd (source : Array Char) : Nat → Bool → Bool → Nat → Nat × Bool
  | 0, _, counts, index => (index, counts)
  | rounds + 1, afterLine, counts, index =>
      let c := charAt source index
      if c == '\x00' || c == '<' || c == '>' || c == '\x7b' || c == '\x7d' || c == '&' then
        (index, counts)
      else
        let afterLine := c == '\n' || (afterLine && isBreakingSpace c)
        markupTextEnd source rounds afterLine (counts || !afterLine) (index + 1)

/-- The index behind the plain characters of an attribute in this quote. -/
def attributeTextEnd (quote : Char) (source : Array Char) : Nat → Nat → Nat
  | 0, index => index
  | rounds + 1, index =>
      let c := charAt source index
      let next := charAt source (index + 1)
      if source.size ≤ index || c == quote then index
      else if c != '&' then attributeTextEnd quote source rounds (index + 1)
      else if source.size ≤ index + 1 || next == '#' || isAsciiLetter next.toNat then index
      else attributeTextEnd quote source rounds (index + 2)

/-- The index behind a reference to a character: its code point or its name between an ampersand and
a semicolon. -/
def characterReferenceEnd? (source : Array Char) (index : Nat) : Option Nat :=
  let closed (p : Char → Bool) (most start : Nat) : Option Nat :=
    let stop := skipWhile p source start
    if start < stop && stop ≤ start + most && charAt source stop == ';' then some (stop + 1)
    else none
  let mark := charAt source (index + 2)
  if charAt source index != '&' then none
  else if charAt source (index + 1) != '#' then
    closed (fun c => isAsciiLetter c.toNat) 30 (index + 1)
  else if mark == 'x' || mark == 'X' then closed isHexDigit 6 (index + 3)
  else closed isDecimalDigit 5 (index + 2)

/-- A letter, digit, underscore or dollar sign of ASCII. -/
def isPlainWordPart (c : Char) : Bool :=
  isAsciiLetter c.toNat || isDecimalDigit c || c == '_' || c == '$'

/-- The index behind a name with a hyphen in it. -/
def hyphenatedEnd? (source : Array Char) (index : Nat) : Option Nat :=
  let stop := skipWhile isPlainWordPart source index
  if index < stop && !isDecimalDigit (charAt source index) && charAt source stop == '-' then
    some (skipWhile (fun c => isPlainWordPart c || c == '-') source stop)
  else none

/-! ## Classes -/

/-- The index behind the last line feed of a run of blanks that ends here. -/
def lastLineFeed? (source : Array Char) (start : Nat) : Nat → Option Nat
  | 0 => none
  | stop + 1 =>
      if stop + 1 ≤ start then none
      else if charAt source stop == '\n' then some (stop + 1)
      else lastLineFeed? source start stop

/-- The index behind `static` and `get` with a line feed behind them, which are one token. -/
def staticGetEnd? (source : Array Char) (index : Nat) : Option Nat :=
  let isBlank (c : Char) := (0x09 ≤ c.toNat && c.toNat ≤ 0x0D) || c == ' '
  let start := skipWhile isBlank source (index + 6)
  if hasAt source index ['s', 't', 'a', 't', 'i', 'c'] && index + 6 < start
      && hasAt source start ['g', 'e', 't'] then
    lastLineFeed? source (start + 3) (skipWhile isBlank source (start + 3))
  else none

end StoryCatalog.Script.Concrete
