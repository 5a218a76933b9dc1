import StoryCatalog.Script.Strict.Pattern

/-!
# Functions, methods and classes
-/

namespace StoryCatalog.Script.Strict

/-- The text between the quotes of a string token, as it stands in the script. -/
def rawContent (token : Token) : P Text :=
  textBetween (token.start + 1) (token.stop - 1)

/-- The directives at the start of a body. -/
def directives (g : Reader) : P (List Estree) :=
  repeatStep ([] : List Estree) fun body => do
    let token ← ahead?
    if token.type != .string then return .inr body.reverse
    let start ← startIndex
    let value ← g .expression
    consumeSemicolon
    let statement ← node "ExpressionStatement" start [("expression", value)]
    let raw ← rawContent token
    if !isType value "Literal" || raw.isEmpty then return .inr (statement :: body).reverse
    if raw == "use strict" && !(← context).allowStrictDirective then
      failAt token .illegalDirective
    return .inl (statement :: body)

/-- The body of a function, in braces. -/
def functionBody (g : Reader) : P Estree := do
  let start ← startIndex
  expectP "\x7b"
  let opening ← directives g
  let before ← context
  modifyContext fun c =>
    { c with labels := [], inIteration := false, inSwitch := false, inFunctionBody := true }
  let rest ← manyUntil (return (← matchP "\x7d") || (← ahead?).type == .eof) do
    return [← g .listItem]
  expectP "\x7d"
  modifyContext fun c =>
    { c with
      labels := before.labels
      inIteration := before.inIteration
      inSwitch := before.inSwitch
      inFunctionBody := before.inFunctionBody }
  node "BlockStatement" start [("body", .list (opening ++ rest))]

/-- Read the body of a function with these parameters, then complain of their names. -/
def bodyFor (parameters : Parameters) (body : P Estree) : P Estree := do
  let before := (← context).allowStrictDirective
  modifyContext fun c => { c with allowStrictDirective := parameters.simple }
  let result ← body
  reportOffence parameters.offence
  modifyContext fun c => { c with allowStrictDirective := before }
  return result

/-- The body of a method. -/
def methodBody (g : Reader) (parameters : Parameters) : P Estree := do
  notTarget
  bodyFor parameters (isolate (functionBody g))

/-- The function that a method has as its value. -/
def methodValue (start : Nat) (parameters : Parameters) (body : Estree) (isGenerator : Bool) :
    P Estree :=
  node "FunctionExpression" start
    [("params", .list parameters.nodes), ("body", body), ("generator", .bool isGenerator)]

/-- A plain method, from its parameters on. -/
def plainMethod (g : Reader) : P Estree := do
  let start ← startIndex
  withYield true do
    let parameters ← formalParameters g
    methodValue start parameters (← methodBody g parameters) false

/-- An asynchronous method, from its parameters on. -/
def asyncMethod (g : Reader) : P Estree := do
  let start ← startIndex
  withFunction false true do
    let parameters ← formalParameters g
    methodValue start parameters (← methodBody g parameters) false

/-- A generator method, from its parameters on. -/
def generatorMethod (g : Reader) : P Estree := do
  let start ← startIndex
  withYield true do
    let parameters ← formalParameters g
    modifyContext fun c => { c with allowYield := false }
    methodValue start parameters (← methodBody g parameters) true

/-- A getter, from its parameters on. -/
def getter (g : Reader) : P Estree := do
  let start ← startIndex
  withYield true do
    let parameters ← formalParameters g
    if !parameters.nodes.isEmpty then failHere .getterArity
    methodValue start parameters (← methodBody g parameters) false

/-- A setter, from its parameters on. -/
def setter (g : Reader) : P Estree := do
  let start ← startIndex
  withYield true do
    let parameters ← formalParameters g
    match parameters.nodes with
    | [parameter] => if isType parameter "RestElement" then failHere .setterRest
    | _ => failHere .setterArity
    methodValue start parameters (← methodBody g parameters) false

/-- The name ahead is `async` and the word `function` follows on the same line. -/
def matchAsyncFunction : P Bool := do
  if ← matchName "async" then
    let line := (← get).line
    let next ← peekToken
    return line == next.line && next.isKeyword "function"
  else return false

/-- The name of a function. -/
def functionName : P Estree := do
  let token ← ahead?
  let name ← bindingName
  if isRestricted token.value then failAt token .strictFunctionName
  return name

/-- A function from the word `function` on; a declaration may lack its name only where that is
allowed. -/
def function (g : Reader) (isDeclaration nameOptional : Bool) : P Estree := do
  let start ← startIndex
  let isAsync ← matchName "async"
  if isAsync then
    let _ ← nextToken
  expectK "function"
  let isGenerator ← if isAsync then pure false else acceptP "*"
  let rest (name : Estree) : P Estree := do
    let parameters ← formalParameters g
    let body ← bodyFor parameters (functionBody g)
    node (if isDeclaration then "FunctionDeclaration" else "FunctionExpression") start
      [("id", name), ("params", .list parameters.nodes), ("body", body),
        ("generator", .bool isGenerator)]
  if isDeclaration then
    let name ← if nameOptional && (← matchP "(") then pure .null else functionName
    withFunction (!isGenerator) isAsync (rest name)
  else
    withFunction (!isGenerator) isAsync do
      let name ← if ← matchP "(" then pure .null else functionName
      rest name

/-! ## Classes -/

/-- What has been read of a class element: the token that decides its kind, its key, and how it was
introduced. -/
structure ElementHead where
  token : Token
  key : Option Estree
  computed : Bool
  isStatic : Bool
  isAsync : Bool

/-- The head of a class element: an optional `static`, an optional star or `async`, and a key. -/
def elementHead (g : Reader) : P ElementHead := do
  let token ← ahead?
  if ← acceptP "*" then return ⟨token, none, false, false, false⟩
  let computed ← matchP "["
  let key ← propertyKey g
  let next ← ahead?
  let isStatic := isType key "Identifier" && nameOf key == "static"
    && (next.startsKey || next.isPunctuator "*")
  let head : ElementHead ←
    if isStatic then
      if ← acceptP "*" then pure ⟨next, some key, false, true, false⟩
      else
        let computed ← matchP "["
        pure ⟨next, some (← propertyKey g), computed, true, false⟩
    else pure ⟨token, some key, computed, false, false⟩
  if head.token.isName "async" && !(← get).newlineBefore then
    let mark := (← ahead?).value
    if mark != ":" && mark != "(" && mark != "*" then
      let token ← ahead?
      let key ← propertyKey g
      if token.isName "constructor" then failAt token .asyncConstructor
      return { head with token, key := some key, isAsync := true }
  return head

/-- The kinds of class elements. -/
inductive ElementKind where
  | getter
  | setter
  | method
deriving DecidableEq

/-- An element of a class body. `hasConstructor` says that there is a constructor already; the
result says whether there is one now. -/
def classElement (g : Reader) (hasConstructor : Bool) : P (Estree × Bool) := do
  let start ← startIndex
  let head ← elementHead g
  let token := head.token
  let next ← ahead?
  let accessor := if token.type == .identifier && next.startsKey then token.value else []
  let (kind, key, computed, value) ←
    if accessor == "get" then
      let computed ← matchP "["
      let key ← propertyKey g
      modifyContext fun c => { c with allowYield := false }
      pure (ElementKind.getter, key, computed, ← getter g)
    else if accessor == "set" then
      let computed ← matchP "["
      let key ← propertyKey g
      pure (ElementKind.setter, key, computed, ← setter g)
    else if token.isPunctuator "*" && next.startsKey then
      let computed ← matchP "["
      let key ← propertyKey g
      pure (ElementKind.method, key, computed, ← generatorMethod g)
    else
      match head.key with
      | some key =>
          if next.isPunctuator "(" then
            let value ← if head.isAsync then asyncMethod g else plainMethod g
            pure (ElementKind.method, key, head.computed, value)
          else unexpected next
      | none => unexpected next
  let mut found := hasConstructor
  if !computed then
    if head.isStatic && keyIs key "prototype" then failAt token .staticPrototype
    if !head.isStatic && keyIs key "constructor" then
      if kind != .method || (value.get "generator").truthy then failAt token .specialConstructor
      if hasConstructor then failAt token .duplicateConstructor
      found := true
  return (← node "MethodDefinition" start [("key", key), ("value", value)], found)

/-- A class body, in braces. -/
def classBody (g : Reader) : P Estree := do
  let start ← startIndex
  expectP "\x7b"
  let elements ← repeatStep (([] : List Estree), false) fun (elements, hasConstructor) => do
    if ← matchP "\x7d" then return .inr elements.reverse
    if ← acceptP ";" then return .inl (elements, hasConstructor)
    let (element, found) ← classElement g hasConstructor
    return .inl (element :: elements, found)
  expectP "\x7d"
  node "ClassBody" start [("body", .list elements)]

/-- A class. A declaration may lack its name only where that is allowed. -/
def classNode (g : Reader) (isDeclaration nameOptional : Bool) : P Estree := do
  let start ← startIndex
  expectK "class"
  let name ←
    if nameOptional && (← ahead?).type != .identifier then pure .null else bindingName
  let base ← if ← matchK "extends" then do
      let _ ← nextToken
      isolate (g .callTarget)
    else pure .null
  let body ← classBody g
  node (if isDeclaration then "ClassDeclaration" else "ClassExpression") start
    [("id", name), ("superClass", base), ("body", body)]

end StoryCatalog.Script.Strict
