import StoryCatalog.Script.Strict.RegExp
import StoryCatalog.Script.Strict.Reading

/-!
# Tokens of strict scripts

Scanning of comments and of the next token. A slash is read as an operator here; the grammar asks
for a regular expression where it expects one.
-/

namespace StoryCatalog.Script.Strict

/-! ## Comments and blanks -/

/-- Skip a carriage return's line feed, then start a new line. -/
def endLine (terminator : Char) : P Unit := do
  if terminator == '\r' && (← current) == '\n' then advance 1
  newLine

/-- Skip to the end of the line and over its terminator. -/
def skipLineComment : P Unit :=
  repeatStep () fun _ => do
    if ← atEnd then return .inr ()
    let c ← current
    advance 1
    if isLineTerminator c then
      endLine c
      return .inr ()
    return .inl ()

/-- Skip to the end of a block comment. -/
def skipBlockComment : P Unit :=
  repeatStep () fun _ => do
    if ← atEnd then scanFail .illegalToken
    let c ← current
    if isLineTerminator c then
      advance 1
      endLine c
      return .inl ()
    else if c == '*' && (← ahead 1) == '/' then
      advance 2
      return .inr ()
    else
      advance 1
      return .inl ()

/-- Skip blanks and comments. The arrow `-->` opens a comment at the start of a line, and `<!--`
does so until the script is known to be a module. -/
def skipComments : P Unit := do
  let s ← get
  repeatStep (s.index == 0) fun lineFresh => do
    if ← atEnd then return .inr ()
    let c ← current
    if isWhiteSpace c then
      advance 1
      return .inl lineFresh
    else if isLineTerminator c then
      advance 1
      endLine c
      return .inl true
    else if c == '/' then
      let next ← ahead 1
      if next == '/' then
        advance 2
        skipLineComment
        return .inl true
      else if next == '*' then
        advance 2
        skipBlockComment
        return .inl lineFresh
      else return .inr ()
    else if lineFresh && c == '-' then
      if (← ahead 1) == '-' && (← ahead 2) == '>' then
        advance 3
        skipLineComment
        return .inl lineFresh
      else return .inr ()
    else if c == '<' && !(← get).strict then
      if (← ahead 1) == '!' && (← ahead 2) == '-' && (← ahead 3) == '-' then
        advance 4
        skipLineComment
        return .inl lineFresh
      else return .inr ()
    else return .inr ()

/-! ## Words -/

/-- Words that no script may use as a name. -/
def isFutureReserved (word : Text) : Bool :=
  word == "enum" || word == "export" || word == "import" || word == "super"

/-- Words that strict code may not use as a name. -/
def isStrictReserved (word : Text) : Bool :=
  (["implements", "interface", "package", "private", "protected", "public", "static", "yield",
    "let"].map Text.ofString).contains word

/-- Names that strict code may not assign to. -/
def isRestricted (word : Text) : Bool :=
  word == "eval" || word == "arguments"

/-- The keywords. -/
def keywords : List Text :=
  ["if", "in", "do", "var", "for", "new", "try", "let", "this", "else", "case", "void", "with",
    "enum", "while", "break", "catch", "throw", "const", "yield", "class", "super", "return",
    "typeof", "delete", "switch", "export", "import", "default", "finally", "extends", "function",
    "continue", "debugger", "instanceof"].map Text.ofString

/-- A token from `start` to the scanning place. -/
def finish (type : TokenType) (value : Text) (start : Nat) : P Token := do
  let s ← get
  return ⟨type, value, s.line, s.lineStart, start, s.index, false, false, false⟩

/-- The value of exactly this many hexadecimal digits. The digits before a missing one are
consumed. -/
def scanHexDigits : Nat → Nat → P (Option Nat)
  | 0, value => return some value
  | count + 1, value => do
      let c ← current
      if !(← atEnd) && isHexDigit c then
        advance 1
        scanHexDigits count (value * 16 + hexDigitValue c)
      else return none

/-- The value of the digits up to a closing brace. -/
def scanBracedDigits : P CodePoint := do
  if (← current) == '\x7d' then scanFail .illegalToken
  let (value, closed) ← repeatStep 0 fun value => do
    if ← atEnd then return .inr (value, false)
    let c ← current
    advance 1
    if isHexDigit c then return .inl (value * 16 + hexDigitValue c)
    else return .inr (value, c == '\x7d')
  match CodePoint.ofNat? value with
  | some point => if closed then return point else scanFail .illegalToken
  | none => scanFail .illegalToken

/-- The code point of an escape inside a name, behind its backslash. -/
def scanNameEscape (allowed : Nat → Bool) : P CodePoint := do
  if (← current) != 'u' then scanFail .illegalToken
  advance 1
  if (← current) == '\x7b' then
    advance 1
    scanBracedDigits
  else
    match ← scanHexDigits 4 0 with
    | some value =>
        if value == 0x5C || !allowed value then scanFail .illegalToken
        else return Fin.ofNat 0x110000 value
    | none => scanFail .illegalToken

/-- A name with its escapes decoded. -/
def scanName : P Text := do
  let c ← current
  advance 1
  let first ← if c == '\\' then scanNameEscape isNameStart else pure (CodePoint.ofChar c)
  repeatStep [first] fun name => do
    if ← atEnd then return .inr name.reverse
    let c ← current
    if c == '\\' then
      advance 1
      return .inl ((← scanNameEscape isNamePart) :: name)
    else if isNamePart c.toNat then
      advance 1
      return .inl (CodePoint.ofChar c :: name)
    else return .inr name.reverse

/-- A name or keyword. A keyword may not be written with escapes. -/
def scanWord : P Token := do
  let start := (← get).index
  let name ← scanName
  let type : TokenType :=
    if name.length == 1 then .identifier
    else if keywords.contains name then .keyword
    else if name == "null" then .null
    else if name == "true" || name == "false" then .boolean
    else .identifier
  let stop := (← get).index
  if type != .identifier && start + name.length != stop then
    moveTo start
    scanFail .escapedKeyword
  finish type name start

/-! ## Punctuators -/

/-- The punctuators of several characters, longer ones first. -/
def longPunctuators : List (List Char) :=
  [">>>=", "===", "!==", ">>>", "<<=", ">>=", "**=", "&&", "||", "==", "!=", "+=", "-=", "*=",
    "/=", "++", "--", "<<", ">>", "&=", "|=", "^=", "%=", "<=", ">=", "=>", "**"].map
    String.toList

/-- A punctuator. Braces are counted, so that the end of a template's expression is seen. -/
def scanPunctuator : P Token := do
  let s ← get
  let start := s.index
  let c ← current
  let single : P Token := do
    advance 1
    finish .punctuator [CodePoint.ofChar c] start
  if c == '\x7b' then
    set { s with braces := false :: s.braces }
    single
  else if c == '\x7d' then
    set { s with braces := s.braces.drop 1 }
    single
  else if c == '.' then
    if (← ahead 1) == '.' && (← ahead 2) == '.' then
      advance 3
      finish .punctuator "..." start
    else single
  else if "();,[]:?~".toList.contains c then single
  else
    let four := [c, ← ahead 1, ← ahead 2, ← ahead 3]
    match longPunctuators.find? (·.isPrefixOf four) with
    | some text =>
        advance text.length
        finish .punctuator (text.map CodePoint.ofChar) start
    | none => if "<>=!+-*%&|^/".toList.contains c then single else scanFail .illegalToken

/-! ## Numbers -/

/-- Skip digits of a class and say how many there were. -/
def skipDigits (isDigit : Char → Bool) : P Nat :=
  repeatStep 0 fun count => do
    if !(← atEnd) && isDigit (← current) then
      advance 1
      return .inl (count + 1)
    else return .inr count

/-- A number may not run into a name. -/
def refuseNameStart : P Unit := do
  if isNameStart (← current).toNat then scanFail .illegalToken

/-- A number with a base mark of two characters. -/
def scanBased (start : Nat) (isDigit : Char → Bool) (refuseDigits : Bool) : P Token := do
  advance 1
  if (← skipDigits isDigit) == 0 then scanFail .illegalToken
  refuseNameStart
  if refuseDigits && isDecimalDigit (← current) then scanFail .illegalToken
  finish .numeric [] start

/-- Whether the digits behind a leading zero are all octal. -/
def isImplicitOctal : P Bool := do
  let s ← get
  let rest := ((← read).toList.drop (s.index + 1)).dropWhile isOctalDigit
  return !(rest.headD ' ' == '8' || rest.headD ' ' == '9')

/-- A number. -/
def scanNumber : P Token := do
  let start := (← get).index
  let first ← current
  if first != '.' then
    advance 1
    let c ← current
    if first == '0' then
      if c == 'x' || c == 'X' then return ← scanBased start isHexDigit false
      if c == 'b' || c == 'B' then return ← scanBased start (fun d => d == '0' || d == '1') true
      if c == 'o' || c == 'O' then return ← scanBased start isOctalDigit true
      if isOctalDigit c && (← isImplicitOctal) then
        let _ ← skipDigits isOctalDigit
        refuseNameStart
        if isDecimalDigit (← current) then scanFail .illegalToken
        return { ← finish .numeric [] start with octal := true }
    let _ ← skipDigits isDecimalDigit
  if (← current) == '.' then
    advance 1
    let _ ← skipDigits isDecimalDigit
  let c ← current
  if c == 'e' || c == 'E' then
    advance 1
    let sign ← current
    if sign == '+' || sign == '-' then advance 1
    if (← skipDigits isDecimalDigit) == 0 then scanFail .illegalToken
  refuseNameStart
  finish .numeric [] start

/-! ## Strings and templates -/

/-- The letters that stand for a control character behind a backslash. -/
def controlEscape? : Char → Option CodePoint
  | 'n' => some 0x0A
  | 'r' => some 0x0D
  | 't' => some 0x09
  | 'b' => some 0x08
  | 'f' => some 0x0C
  | 'v' => some 0x0B
  | _ => none

/-- The value of an octal escape whose first digit has been read, and whether it is one that strict
code does not allow: any but a lone zero. -/
def scanOctalEscape (first : Char) : P (CodePoint × Bool) := do
  let value := hexDigitValue first
  let second ← current
  if !(← atEnd) && isOctalDigit second then
    advance 1
    let value := value * 8 + hexDigitValue second
    let third ← current
    if '0' ≤ first && first ≤ '3' && !(← atEnd) && isOctalDigit third then
      advance 1
      return (Fin.ofNat 0x110000 (value * 8 + hexDigitValue third), true)
    return (Fin.ofNat 0x110000 value, true)
  return (Fin.ofNat 0x110000 value, first != '0')

/-- The code point of a `\u` or `\x` escape, behind that letter. -/
def scanCodeEscape (letter : Char) : P CodePoint := do
  if letter == 'u' && (← current) == '\x7b' then
    advance 1
    scanBracedDigits
  else
    match ← scanHexDigits (if letter == 'u' then 4 else 2) 0 with
    | some value => return Fin.ofNat 0x110000 value
    | none => scanFail (if letter == 'u' then .illegalToken else .invalidHexEscape)

/-- A string literal. -/
def scanString : P Token := do
  let start := (← get).index
  let quote ← current
  advance 1
  let (closed, value, octal) ← repeatStep (([] : Text), false) fun (value, octal) => do
    if ← atEnd then return .inr (false, value, octal)
    let c ← current
    advance 1
    if c == quote then return .inr (true, value, octal)
    else if c == '\\' then
      let e ← current
      advance 1
      if isLineTerminator e then
        endLine e
        return .inl (value, octal)
      else if e == 'u' || e == 'x' then return .inl ((← scanCodeEscape e) :: value, octal)
      else if e == '8' || e == '9' then scanFail .illegalToken
      else if isOctalDigit e then
        let (point, isOctal) ← scanOctalEscape e
        return .inl (point :: value, isOctal || octal)
      else return .inl ((controlEscape? e).getD (CodePoint.ofChar e) :: value, octal)
    else if isLineTerminator c then return .inr (false, value, octal)
    else return .inl (CodePoint.ofChar c :: value, octal)
  if !closed then
    moveTo start
    scanFail .illegalToken
  return { ← finish .string value.reverse start with octal }

/-- One escape of a template, behind its backslash. Only its extent matters. -/
def scanTemplateEscape : P Unit := do
  let e ← current
  advance 1
  if isLineTerminator e then endLine e
  else if e == 'u' then
    if (← current) == '\x7b' then
      advance 1
      let _ ← scanBracedDigits
    else
      let place := (← get).index
      if (← scanHexDigits 4 0).isNone then moveTo place
  else if e == 'x' then
    let _ ← scanCodeEscape e
  else if e == '0' then
    if isDecimalDigit (← current) then scanFail .templateOctal
  else if isOctalDigit e then scanFail .templateOctal

/-- A part of a template: from a backquote or closing brace up to the next opening of an expression
or to the closing backquote. -/
def scanTemplate : P Token := do
  let start := (← get).index
  let head := (← current) == '\x60'
  advance 1
  let tail ← repeatStep () fun _ => do
    if ← atEnd then scanFail .illegalToken
    let c ← current
    advance 1
    if c == '\x60' then return .inr true
    else if c == '$' && (← current) == '\x7b' then
      advance 1
      modify fun s => { s with braces := true :: s.braces }
      return .inr false
    else if c == '\\' then
      scanTemplateEscape
      return .inl ()
    else if isLineTerminator c then
      endLine c
      return .inl ()
    else return .inl ()
  if !head then
    modify fun s => { s with braces := s.braces.drop 1 }
  let stop := (← get).index
  let value ← textBetween (start + 1) (stop - (if tail then 1 else 2))
  return { ← finish .template value start with head, tail }

/-! ## Regular expressions -/

/-- A regular expression, from its opening slash. -/
def scanRegExp : P Token := do
  let start := (← get).index
  advance 1
  let _ ← repeatStep false fun inClass => do
    if ← atEnd then scanFail .unterminatedRegExp
    let c ← current
    advance 1
    if c == '\\' then
      let e ← current
      advance 1
      if isLineTerminator e then scanFail .unterminatedRegExp
      return .inl inClass
    else if isLineTerminator c then scanFail .unterminatedRegExp
    else if inClass then return .inl (c != ']')
    else if c == '/' then return .inr ()
    else return .inl (c == '[')
  let stop := (← get).index
  let pattern := ((← read).toList.drop (start + 1)).take (stop - start - 2)
  let _ ← repeatStep () fun _ => do
    if ← atEnd then return .inr ()
    let c ← current
    if !isNamePart c.toNat then return .inr ()
    advance 1
    if c == '\\' && !(← atEnd) then
      if (← current) == 'u' then
        advance 1
        let place := (← get).index
        if (← scanHexDigits 4 0).isNone then moveTo place
      scanFail .illegalToken
    return .inl ()
  if !RegExp.isValid pattern then scanFail .invalidRegExp
  finish .regExp [] start

/-! ## The next token -/

/-- Scan the next token from the scanning place, which stands on no blank or comment. -/
def scanToken : P Token := do
  if ← atEnd then
    let s ← get
    return ⟨.eof, [], s.line, s.lineStart, s.index, s.index, false, false, false⟩
  let c ← current
  if isNameStart c.toNat then scanWord
  else if c == '\'' || c == '"' then scanString
  else if c == '.' then
    if isDecimalDigit (← ahead 1) then scanNumber else scanPunctuator
  else if isDecimalDigit c then scanNumber
  else if c == '\x60' || (c == '\x7d' && (← get).braces.headD false) then scanTemplate
  else scanPunctuator

/-- Look at the next token behind the scanning place without moving there. The count of open braces
is not taken back. -/
def peekToken : P Token := do
  let s ← get
  skipComments
  let token ← scanToken
  modify fun t => { t with index := s.index, line := s.line, lineStart := s.lineStart }
  return token

end StoryCatalog.Script.Strict
