import StoryCatalog.Script.Strict.Token
import StoryCatalog.Syntax.Estree

/-!
# Token stream and cover grammar

Reading tokens one ahead, building nodes, and the bookkeeping for expressions that turn out to be
patterns. An expression is read before it is known whether it is the left side of an assignment or
a list of parameters; two flags say whether it could be, and a shorthand property with an
initialiser is remembered until the answer is known.
-/

namespace StoryCatalog.Script.Strict

/-! ## Complaints -/

/-- Refuse the script at the end of the latest token. -/
def fail {α : Type} (complaint : Complaint) : P α := do
  let last := (← get).last
  refuse complaint last.line ((last.index : Int) - last.lineStart + 1)

/-- Refuse what was read for its meaning: in the column behind the latest token, on the line that
the scanning has come to. -/
def failHere {α : Type} (complaint : Complaint) : P α := do
  let s ← get
  refuse complaint s.line ((s.last.index : Int) - s.last.lineStart + 1)

/-- Refuse the script at a token. The column counts from the line of the latest token. -/
def failAt {α : Type} (token : Token) (complaint : Complaint) : P α := do
  let last := (← get).last
  refuse complaint token.line ((token.start : Int) - last.lineStart + 1)

/-- What is said of a token that does not fit. -/
def Token.complaint (token : Token) : Complaint :=
  match token.type with
  | .eof => .endOfInput
  | .identifier => .unexpectedIdentifier
  | .numeric => .unexpectedNumber
  | .string => .unexpectedString
  | .template => .unexpectedTemplate token.value
  | .keyword =>
      if isFutureReserved token.value then .reservedWord
      else if isStrictReserved token.value then .strictReservedWord
      else .unexpectedToken token.value
  | _ => .unexpectedToken token.value

/-- Refuse a token that does not fit. -/
def unexpected {α : Type} (token : Token) : P α :=
  failAt token token.complaint

/-! ## Tokens -/

/-- The scanning place. -/
def here : P Marker := do
  let s ← get
  return ⟨s.index, s.line, s.lineStart⟩

/-- Consume the token ahead and scan the next one. -/
def nextToken : P Token := do
  let token := (← get).lookahead
  let stop ← here
  modify fun s => { s with last := stop }
  skipComments
  let start ← here
  modify fun s => { s with start }
  let next ← scanToken
  let next :=
    if next.type == .identifier && (← get).strict && isStrictReserved next.value then
      { next with type := TokenType.keyword }
    else next
  modify fun s => { s with lookahead := next, newlineBefore := token.line != next.line }
  return token

/-- Read a regular expression in place of the slash ahead. -/
def nextRegExp : P Token := do
  skipComments
  let token ← scanRegExp
  modify fun s => { s with lookahead := token }
  let _ ← nextToken
  return token

/-- The token ahead. -/
def ahead? : P Token := do
  return (← get).lookahead

/-- The token is this punctuator. -/
def Token.isPunctuator (token : Token) (value : Text) : Bool :=
  token.type == .punctuator && token.value == value

/-- The token is this keyword. -/
def Token.isKeyword (token : Token) (value : Text) : Bool :=
  token.type == .keyword && token.value == value

/-- The token is this name, which has a meaning of its own in some places. -/
def Token.isName (token : Token) (value : Text) : Bool :=
  token.type == .identifier && token.value == value

/-- The token ahead is this punctuator. -/
def matchP (value : Text) : P Bool := do
  return (← ahead?).isPunctuator value

/-- The token ahead is this keyword. -/
def matchK (value : Text) : P Bool := do
  return (← ahead?).isKeyword value

/-- The token ahead is this name. -/
def matchName (value : Text) : P Bool := do
  return (← ahead?).isName value

/-- Consume this punctuator or refuse the token. -/
def expectP (value : Text) : P Unit := do
  let token ← nextToken
  if !token.isPunctuator value then unexpected token

/-- Consume this keyword or refuse the token. -/
def expectK (value : Text) : P Unit := do
  let token ← nextToken
  if !token.isKeyword value then unexpected token

/-- Consume this punctuator if it is ahead. -/
def acceptP (value : Text) : P Bool := do
  if ← matchP value then
    let _ ← nextToken
    return true
  else return false

/-- The operators of assignment. -/
def assignmentOperators : List Text :=
  ["=", "*=", "**=", "/=", "%=", "+=", "-=", "<<=", ">>=", ">>>=", "&=", "^=", "|="].map
    Text.ofString

/-- The token ahead is an operator of assignment. -/
def matchAssignment : P Bool := do
  let token ← ahead?
  return token.type == .punctuator && assignmentOperators.contains token.value

/-- End a statement: at a semicolon, or without one before a newline, a closing brace or the
end. -/
def consumeSemicolon : P Unit := do
  let s ← get
  if ← matchP ";" then
    let _ ← nextToken
  else if !s.newlineBefore then
    if s.lookahead.type != .eof && !s.lookahead.isPunctuator "\x7d" then unexpected s.lookahead
    set { s with last := s.start }

/-! ## Nodes -/

/-- The index at which the token ahead starts. -/
def startIndex : P Nat := do
  return (← get).start.index

/-- A node from an index to the end of the latest token. -/
def node (type : String) (start : Nat) (attributes : List (String × Estree)) : P Estree := do
  let stop := (← get).last.index
  return .node (("type", .text type) :: ("range", .list [.integer start, .integer stop])
    :: attributes)

/-- The node has this type. -/
def isType (value : Estree) (type : Text) : Bool :=
  (value.get "type").text? == some type

/-- The name of an identifier, and the empty text for other nodes. -/
def nameOf (value : Estree) : Text :=
  ((value.get "name").text?).getD []

/-- The stand-in for a list of parameters of an arrow function that has been read. -/
def arrowParameters (parameters : List Estree) (isAsync : Bool) : Estree :=
  .node [("type", .text "ArrowParameterPlaceHolder"), ("params", .list parameters),
    ("async", .bool isAsync)]

/-! ## The cover grammar -/

/-- Change what the grammar remembers. -/
def modifyContext (f : Context → Context) : P Unit :=
  modify fun s => { s with context := f s.context }

/-- What the grammar remembers. -/
def context : P Context := do
  return (← get).context

/-- The expression just read can be neither assigned to nor bound. -/
def notTarget : P Unit :=
  modifyContext fun c => { c with isAssignmentTarget := false, isBindingElement := false }

/-- Read an expression that cannot be part of a pattern around it. -/
def isolate {α : Type} (step : P α) : P α := do
  let before ← context
  modifyContext fun c =>
    { c with isBindingElement := true, isAssignmentTarget := true, coverInitializer := none }
  let result ← step
  match (← context).coverInitializer with
  | some token => unexpected token
  | none => pure ()
  modifyContext fun c =>
    { c with
      isBindingElement := before.isBindingElement
      isAssignmentTarget := before.isAssignmentTarget
      coverInitializer := before.coverInitializer }
  return result

/-- Read an expression that may be part of a pattern around it. -/
def inherit {α : Type} (step : P α) : P α := do
  let before ← context
  modifyContext fun c =>
    { c with isBindingElement := true, isAssignmentTarget := true, coverInitializer := none }
  let result ← step
  modifyContext fun c =>
    { c with
      isBindingElement := c.isBindingElement && before.isBindingElement
      isAssignmentTarget := c.isAssignmentTarget && before.isAssignmentTarget
      coverInitializer := before.coverInitializer.or c.coverInitializer }
  return result

/-- Read something with `in` allowed as an operator or not. -/
def withIn {α : Type} (allowIn : Bool) (step : P α) : P α := do
  let before := (← context).allowIn
  modifyContext fun c => { c with allowIn }
  let result ← step
  modifyContext fun c => { c with allowIn := before }
  return result

/-- Read something with `yield` as a name or as an operator. -/
def withYield {α : Type} (allowYield : Bool) (step : P α) : P α := do
  let before := (← context).allowYield
  modifyContext fun c => { c with allowYield }
  let result ← step
  modifyContext fun c => { c with allowYield := before }
  return result

/-- Read something with `yield` and `await` set for the parts of a function. -/
def withFunction {α : Type} (allowYield allowAwait : Bool) (step : P α) : P α := do
  let before ← context
  modifyContext fun c => { c with allowYield, allowAwait }
  let result ← step
  modifyContext fun c =>
    { c with allowYield := before.allowYield, allowAwait := before.allowAwait }
  return result

/-- Collect what a step reads until a condition holds. -/
def manyUntil {α : Type} (stop : P Bool) (step : P (List α)) : P (List α) :=
  repeatStep ([] : List α) fun found => do
    if ← stop then return .inr found.reverse
    let more ← step
    return .inl (more.reverse ++ found)

/-! ## The rules that refer to each other -/

/-- What kind of declaration a name belongs to. -/
inductive BindingKind where
  | variable
  | lexical
  | parameter
deriving DecidableEq

/-- The rules of the grammar through which it refers to itself. -/
inductive Rule where
  | assignment
  | expression
  | unary
  | exponentiation
  | newTarget
  | callTarget
  | primary
  | statement
  | listItem
  | pattern (kind : BindingKind)
  | markupRoot
  | markupElement

/-- Read what a rule describes. -/
abbrev Reader := Rule → P Estree

end StoryCatalog.Script.Strict
