import StoryCatalog.Script.Strict.Markup

/-!
# Statements and declarations
-/

namespace StoryCatalog.Script.Strict

/-! ## Declarations -/

/-- A list separated by commas with at least one item. -/
def commaList (item : P Estree) : P (List Estree) := do
  let first ← item
  let more ← manyUntil (return !(← matchP ",")) do
    let _ ← nextToken
    return [← item]
  return first :: more

/-- One name or pattern of a `let` or `const` declaration. -/
def lexicalBinding (g : Reader) (isConst inFor : Bool) : P Estree := do
  let start ← startIndex
  let target ← g (.pattern .lexical)
  let isName := isType target "Identifier"
  if isName && isRestricted (nameOf target) then failHere .strictVariableName
  let value ←
    if isConst then
      if (← matchK "in") || (← matchName "of") then pure .null
      else if ← acceptP "=" then isolate (g .assignment)
      else fail (.missingInitializer "const")
    else if (!inFor && !isName) || (← matchP "=") then do
      expectP "="
      isolate (g .assignment)
    else pure .null
  node "VariableDeclarator" start [("id", target), ("init", value)]

/-- One name or pattern of a `var` declaration. -/
def variableBinding (g : Reader) (inFor : Bool) : P Estree := do
  let start ← startIndex
  let target ← g (.pattern .variable)
  let isName := isType target "Identifier"
  if isName && isRestricted (nameOf target) then failHere .strictVariableName
  let value ←
    if ← acceptP "=" then isolate (g .assignment)
    else
      if !isName && !inFor then expectP "="
      pure .null
  node "VariableDeclarator" start [("id", target), ("init", value)]

/-- A `let` or `const` declaration. -/
def lexicalDeclaration (g : Reader) : P Estree := do
  let start ← startIndex
  let isConst := (← nextToken).value == "const"
  let declarations ← commaList (lexicalBinding g isConst false)
  consumeSemicolon
  node "VariableDeclaration" start [("declarations", .list declarations)]

/-- A declaration follows the word `let`. -/
def matchLexicalDeclaration : P Bool := do
  let next ← peekToken
  return next.type == .identifier || next.isPunctuator "[" || next.isPunctuator "\x7b"
    || next.isKeyword "let" || next.isKeyword "yield"

/-! ## Statements -/

/-- Statements in braces. -/
def block (g : Reader) : P Estree := do
  let start ← startIndex
  expectP "\x7b"
  let body ← manyUntil (matchP "\x7d") (return [← g .listItem])
  expectP "\x7d"
  node "BlockStatement" start [("body", .list body)]

/-- An expression as a statement. -/
def expressionStatement (g : Reader) : P Estree := do
  let start ← startIndex
  let value ← g .expression
  consumeSemicolon
  node "ExpressionStatement" start [("expression", value)]

/-- A branch of a condition, which is no function. -/
def branch (g : Reader) : P Estree := do
  if ← matchK "function" then failHere .strictFunction
  g .statement

/-- A condition. -/
def ifStatement (g : Reader) : P Estree := do
  let start ← startIndex
  expectK "if"
  expectP "("
  let test ← g .expression
  expectP ")"
  let consequent ← branch g
  let alternate ← if ← matchK "else" then do
      let _ ← nextToken
      branch g
    else pure .null
  node "IfStatement" start
    [("test", test), ("consequent", consequent), ("alternate", alternate)]

/-- Read the body of a loop. -/
def loopBody (body : P Estree) : P Estree := do
  let before := (← context).inIteration
  modifyContext fun c => { c with inIteration := true }
  let result ← body
  modifyContext fun c => { c with inIteration := before }
  return result

/-- A loop with its test at the end. -/
def doWhileStatement (g : Reader) : P Estree := do
  let start ← startIndex
  expectK "do"
  let body ← loopBody (g .statement)
  expectK "while"
  expectP "("
  let test ← g .expression
  expectP ")"
  let _ ← acceptP ";"
  node "DoWhileStatement" start [("body", body), ("test", test)]

/-- A loop with its test at the start. -/
def whileStatement (g : Reader) : P Estree := do
  let start ← startIndex
  expectK "while"
  expectP "("
  let test ← g .expression
  expectP ")"
  let body ← loopBody (g .statement)
  node "WhileStatement" start [("test", test), ("body", body)]

/-- The head of a loop over something: the target and what is looped over. An absent target leaves
an initialiser, if there is one. -/
structure LoopHead where
  init : Estree
  target : Option (Estree × Estree)

/-- A single declaration without an initialiser. -/
def isBareDeclaration (declarations : List Estree) : Bool :=
  match declarations with
  | [declaration] => (declaration.get "init").isNull
  | _ => false

/-- The head of a `for` loop that starts with `var`. -/
def variableHead (g : Reader) : P LoopHead := do
  let start ← startIndex
  let _ ← nextToken
  let declarations ← withIn false (commaList (variableBinding g true))
  let whole := node "VariableDeclaration" start [("declarations", .list declarations)]
  if declarations.length == 1 && (← matchK "in") then
    if !isBareDeclaration declarations then failHere (.loopInitializer "for-in")
    let target ← whole
    let _ ← nextToken
    return ⟨.null, some (target, ← g .expression)⟩
  else if isBareDeclaration declarations && (← matchName "of") then
    let target ← whole
    let _ ← nextToken
    return ⟨.null, some (target, ← g .assignment)⟩
  else
    let init ← whole
    expectP ";"
    return ⟨init, none⟩

/-- The head of a `for` loop that starts with `let` or `const`. -/
def lexicalHead (g : Reader) : P LoopHead := do
  let start ← startIndex
  let isConst := (← nextToken).value == "const"
  let declarations ← withIn false (commaList (lexicalBinding g isConst true))
  let whole := node "VariableDeclaration" start [("declarations", .list declarations)]
  if isBareDeclaration declarations && (← matchK "in") then
    let target ← whole
    let _ ← nextToken
    return ⟨.null, some (target, ← g .expression)⟩
  else if isBareDeclaration declarations && (← matchName "of") then
    let target ← whole
    let _ ← nextToken
    return ⟨.null, some (target, ← g .assignment)⟩
  else
    consumeSemicolon
    return ⟨← whole, none⟩

/-- The head of a `for` loop that starts with an expression. -/
def expressionHead (g : Reader) : P LoopHead := do
  let start := (← ahead?).start
  let init ← withIn false (inherit (g .assignment))
  let isTarget := (← context).isAssignmentTarget && !isType init "AssignmentExpression"
  if ← matchK "in" then
    if !isTarget then failHere .forInTarget
    let _ ← nextToken
    return ⟨.null, some (init, ← g .expression)⟩
  else if ← matchName "of" then
    if !isTarget then failHere .forLoopTarget
    let _ ← nextToken
    return ⟨.null, some (init, ← g .assignment)⟩
  else
    let more ← manyUntil (return !(← matchP ",")) do
      let _ ← nextToken
      return [← isolate (g .assignment)]
    let whole ←
      if more.isEmpty then pure init
      else node "SequenceExpression" start [("expressions", .list (init :: more))]
    expectP ";"
    return ⟨whole, none⟩

/-- A `for` loop of any kind. -/
def forStatement (g : Reader) : P Estree := do
  let start ← startIndex
  expectK "for"
  expectP "("
  let head ←
    if ← acceptP ";" then pure ⟨.null, none⟩
    else if ← matchK "var" then variableHead g
    else if (← matchK "const") || (← matchK "let") then lexicalHead g
    else expressionHead g
  let parts ←
    match head.target with
    | some (target, value) => pure [("left", target), ("right", value)]
    | none => do
        let test ← if ← matchP ";" then pure .null else g .expression
        expectP ";"
        let step ← if ← matchP ")" then pure .null else g .expression
        pure [("init", head.init), ("test", test), ("update", step)]
  expectP ")"
  let body ← loopBody (isolate (g .statement))
  node "ForStatement" start (parts ++ [("body", body)])

/-- The label behind `break` or `continue`, if there is one on the same line. -/
def jumpLabel : P (Option Text) := do
  let s ← get
  if s.lookahead.type == .identifier && !s.newlineBefore then
    let name := nameOf (← bindingName)
    if !s.context.labels.contains name then fail (.unknownLabel name)
    return some name
  else return none

/-- A jump to the next round of a loop. -/
def continueStatement : P Estree := do
  let start ← startIndex
  expectK "continue"
  let label ← jumpLabel
  consumeSemicolon
  if label.isNone && !(← context).inIteration then fail .illegalContinue
  node "ContinueStatement" start []

/-- A jump out of a loop or a choice. -/
def breakStatement : P Estree := do
  let start ← startIndex
  expectK "break"
  let label ← jumpLabel
  consumeSemicolon
  let c ← context
  if label.isNone && !c.inIteration && !c.inSwitch then fail .illegalBreak
  node "BreakStatement" start []

/-- A return from a function. -/
def returnStatement (g : Reader) : P Estree := do
  if !(← context).inFunctionBody then failHere .illegalReturn
  let start ← startIndex
  expectK "return"
  let s ← get
  let hasArgument := (!s.lookahead.isPunctuator ";" && !s.lookahead.isPunctuator "\x7d"
      && !s.newlineBefore && s.lookahead.type != .eof)
    || s.lookahead.type == .string || s.lookahead.type == .template
  let argument ← if hasArgument then g .expression else pure .null
  consumeSemicolon
  node "ReturnStatement" start [("argument", argument)]

/-- A case of a choice, and whether it is the default one. -/
def switchCase (g : Reader) : P (Estree × Bool) := do
  let start ← startIndex
  let isDefault ← matchK "default"
  let test ← if isDefault then do
      let _ ← nextToken
      pure .null
    else do
      expectK "case"
      g .expression
  expectP ":"
  let body ← manyUntil
    (return (← matchP "\x7d") || (← matchK "default") || (← matchK "case"))
    (return [← g .listItem])
  return (← node "SwitchCase" start [("test", test), ("consequent", .list body)], isDefault)

/-- A choice between cases. -/
def switchStatement (g : Reader) : P Estree := do
  let start ← startIndex
  expectK "switch"
  expectP "("
  let value ← g .expression
  expectP ")"
  let before := (← context).inSwitch
  modifyContext fun c => { c with inSwitch := true }
  expectP "\x7b"
  let cases ← repeatStep (([] : List Estree), false) fun (cases, hasDefault) => do
    if ← matchP "\x7d" then return .inr cases.reverse
    let (clause, isDefault) ← switchCase g
    if isDefault && hasDefault then fail .twoDefaults
    return .inl (clause :: cases, hasDefault || isDefault)
  expectP "\x7d"
  modifyContext fun c => { c with inSwitch := before }
  node "SwitchStatement" start [("discriminant", value), ("cases", .list cases)]

/-- A statement that starts with a name: a labelled one, or an expression. -/
def labelledStatement (g : Reader) : P Estree := do
  let start ← startIndex
  let value ← g .expression
  if isType value "Identifier" && (← matchP ":") then
    let _ ← nextToken
    let name := nameOf value
    let before := (← context).labels
    if before.contains name then fail (.labelRedeclared name)
    modifyContext fun c => { c with labels := name :: before }
    let token ← ahead?
    let body ←
      if token.isKeyword "class" then unexpected token
      else if token.isKeyword "function" then do
        let _ ← function g true false
        failAt token .strictFunction
      else g .statement
    modifyContext fun c => { c with labels := c.labels.erase name }
    node "LabeledStatement" start [("label", value), ("body", body)]
  else
    consumeSemicolon
    node "ExpressionStatement" start [("expression", value)]

/-- A throw. -/
def throwStatement (g : Reader) : P Estree := do
  let start ← startIndex
  expectK "throw"
  if (← get).newlineBefore then fail .newlineAfterThrow
  let value ← g .expression
  consumeSemicolon
  node "ThrowStatement" start [("argument", value)]

/-- The handler of a `try`. -/
def catchClause (g : Reader) : P Estree := do
  let start ← startIndex
  expectK "catch"
  expectP "("
  if ← matchP ")" then unexpected (← ahead?)
  let before := (← get).bound
  modify fun s => { s with bound := [] }
  let parameter ← g (.pattern .parameter)
  let names := (← get).bound.reverse.map Token.value
  modify fun s => { s with bound := before }
  let _ ← names.foldlM (fun (seen : List Text) name => do
    if seen.contains name then failHere (.duplicateBinding name)
    return name :: seen) []
  if isType parameter "Identifier" && isRestricted (nameOf parameter) then
    failHere .strictCatchVariable
  expectP ")"
  let body ← block g
  node "CatchClause" start [("param", parameter), ("body", body)]

/-- A `try` with its handlers. -/
def tryStatement (g : Reader) : P Estree := do
  let start ← startIndex
  expectK "try"
  let body ← block g
  let handler ← if ← matchK "catch" then catchClause g else pure .null
  let finalizer ← if ← matchK "finally" then do
      let _ ← nextToken
      block g
    else pure .null
  if handler.isNull && finalizer.isNull then fail .noCatchOrFinally
  node "TryStatement" start
    [("block", body), ("handler", handler), ("finalizer", finalizer)]

/-- A `var` declaration. -/
def variableStatement (g : Reader) : P Estree := do
  let start ← startIndex
  expectK "var"
  let declarations ← commaList (variableBinding g false)
  consumeSemicolon
  node "VariableDeclaration" start [("declarations", .list declarations)]

/-- A statement. -/
def statement (g : Reader) : P Estree := do
  let start ← startIndex
  let token ← ahead?
  match token.type with
  | .eof | .markupName | .markupText => unexpected token
  | .punctuator =>
      if token.value == "\x7b" then block g
      else if token.value == ";" then
        let _ ← nextToken
        node "EmptyStatement" start []
      else expressionStatement g
  | .identifier =>
      if ← matchAsyncFunction then function g true false else labelledStatement g
  | .keyword =>
      let word := token.value
      if word == "break" then breakStatement
      else if word == "continue" then continueStatement
      else if word == "debugger" then
        let _ ← nextToken
        consumeSemicolon
        node "DebuggerStatement" start []
      else if word == "do" then doWhileStatement g
      else if word == "for" then forStatement g
      else if word == "function" then function g true false
      else if word == "if" then ifStatement g
      else if word == "return" then returnStatement g
      else if word == "switch" then switchStatement g
      else if word == "throw" then throwStatement g
      else if word == "try" then tryStatement g
      else if word == "var" then variableStatement g
      else if word == "while" then whileStatement g
      else if word == "with" then failHere .strictWith
      else expressionStatement g
  | _ => expressionStatement g

end StoryCatalog.Script.Strict
