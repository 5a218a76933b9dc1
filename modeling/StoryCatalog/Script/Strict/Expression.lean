import StoryCatalog.Script.Strict.Function

/-!
# Expressions
-/

namespace StoryCatalog.Script.Strict

/-! ## Literals with parts -/

/-- Three dots and an expression. -/
def spread (g : Reader) : P Estree := do
  let start ← startIndex
  expectP "..."
  let argument ← inherit (g .assignment)
  node "SpreadElement" start [("argument", argument)]

/-- An array literal. -/
def arrayLiteral (g : Reader) : P Estree := do
  let start ← startIndex
  expectP "["
  let elements ← manyUntil (matchP "]") do
    if ← acceptP "," then return [.null]
    else if ← matchP "..." then
      let element ← spread g
      if !(← matchP "]") then
        notTarget
        expectP ","
      return [element]
    else
      let element ← inherit (g .assignment)
      if !(← matchP "]") then expectP ","
      return [element]
  expectP "]"
  node "ArrayExpression" start [("elements", .list elements)]

/-- What stands behind the key of a property that is no accessor and no generator. -/
def plainProperty (g : Reader) (start : Nat) (token : Token) (key : Estree)
    (computed isAsync hasProto : Bool) : P (Estree × Bool) := do
  if !isAsync && (← matchP ":") then
    let isProto := !computed && keyIs key "__proto__"
    if isProto && hasProto then failHere .duplicateProto
    let _ ← nextToken
    let value ← inherit (g .assignment)
    return (← node "Property" start [("key", key), ("value", value)], hasProto || isProto)
  else if ← matchP "(" then
    let value ← if isAsync then asyncMethod g else plainMethod g
    return (← node "Property" start [("key", key), ("value", value)], hasProto)
  else if token.type == .identifier then
    let name ← node "Identifier" start [("name", .text token.value)]
    if ← matchP "=" then
      let equals ← ahead?
      modifyContext fun c => { c with coverInitializer := some equals }
      let _ ← nextToken
      let right ← isolate (g .assignment)
      let value ← node "AssignmentPattern" start [("left", name), ("right", right)]
      return (← node "Property" start [("key", key), ("value", value)], hasProto)
    else return (← node "Property" start [("key", key), ("value", name)], hasProto)
  else unexpected (← nextToken)

/-- A property of an object literal. The flag says whether a prototype has been given. -/
def objectProperty (g : Reader) (hasProto : Bool) : P (Estree × Bool) := do
  let start ← startIndex
  let token ← ahead?
  let (key, computed, isAsync) ←
    if token.type == .identifier then
      let _ ← nextToken
      let next ← ahead?
      let isAsync := !(← get).newlineBefore && token.value == "async"
        && !(next.isPunctuator ":" || next.isPunctuator "(" || next.isPunctuator "*"
          || next.isPunctuator ",")
      let computed := next.isPunctuator "["
      let key ←
        if isAsync then propertyKey g else node "Identifier" start [("name", .text token.value)]
      pure (some key, computed, isAsync)
    else if ← acceptP "*" then pure (none, false, false)
    else
      let computed ← matchP "["
      pure (some (← propertyKey g), computed, false)
  let next ← ahead?
  let accessor :=
    if token.type == .identifier && !isAsync && next.startsKey then token.value else []
  let finish (value : P Estree) : P (Estree × Bool) := do
    let key ← propertyKey g
    let value ← value
    return (← node "Property" start [("key", key), ("value", value)], hasProto)
  if accessor == "get" then
    finish do
      modifyContext fun c => { c with allowYield := false }
      getter g
  else if accessor == "set" then finish (setter g)
  else if token.isPunctuator "*" && next.startsKey then finish (generatorMethod g)
  else
    match key with
    | none => unexpected next
    | some key => plainProperty g start token key computed isAsync hasProto

/-- An object literal. -/
def objectLiteral (g : Reader) : P Estree := do
  let start ← startIndex
  expectP "\x7b"
  let properties ← repeatStep (([] : List Estree), false) fun (properties, hasProto) => do
    if ← matchP "\x7d" then return .inr properties.reverse
    let (property, hasProto) ←
      if ← matchP "..." then do
        let property ← spread g
        pure (property, hasProto)
      else objectProperty g hasProto
    if !(← matchP "\x7d") then expectP ","
    return .inl (property :: properties, hasProto)
  expectP "\x7d"
  node "ObjectExpression" start [("properties", .list properties)]

/-- One part of a template. -/
def templatePart : P (Estree × Bool) := do
  let token ← ahead?
  if token.type != .template then fail .illegalToken
  let start ← startIndex
  let _ ← nextToken
  return (← node "TemplateElement" start [], token.tail)

/-- A template with the expressions in it. -/
def template (g : Reader) : P Estree := do
  let start ← startIndex
  let (first, isLast) ← templatePart
  let (parts, expressions) ←
    repeatStep ([first], ([] : List Estree), isLast) fun (parts, expressions, isLast) => do
      if isLast then return .inr (parts.reverse, expressions.reverse)
      let expression ← g .expression
      let (part, isLast) ← templatePart
      return .inl (part :: parts, expression :: expressions, isLast)
  node "TemplateLiteral" start [("quasis", .list parts), ("expressions", .list expressions)]

/-! ## Groups and calls -/

/-- The expressions of a group behind its first comma, up to the closing parenthesis or to the
arrow that shows them to be parameters. -/
def groupRest (g : Reader) (start : Nat) (first : Estree) : P (Estree × Bool) := do
  modifyContext fun c => { c with isAssignmentTarget := false }
  repeatStep [first] fun expressions => do
    if !(← matchP ",") then
      let sequence ←
        node "SequenceExpression" start [("expressions", .list expressions.reverse)]
      return .inr (sequence, false)
    let _ ← nextToken
    if ← matchP ")" then
      let _ ← nextToken
      return .inr (arrowParameters expressions.reverse false, true)
    else if ← matchP "..." then
      if !(← context).isBindingElement then unexpected (← ahead?)
      let rest ← restParameter g
      expectP ")"
      if !(← matchP "=>") then expectP "=>"
      modifyContext fun c => { c with isBindingElement := false }
      return .inr (arrowParameters (rest :: expressions).reverse false, true)
    else return .inl ((← inherit (g .assignment)) :: expressions)

/-- A parenthesised expression, or the parameters of an arrow function. -/
def groupExpression (g : Reader) : P Estree := do
  expectP "("
  if ← matchP ")" then
    let _ ← nextToken
    if !(← matchP "=>") then expectP "=>"
    return arrowParameters [] false
  let start := (← ahead?).start
  if ← matchP "..." then
    let rest ← restParameter g
    expectP ")"
    if !(← matchP "=>") then expectP "=>"
    return arrowParameters [rest] false
  modifyContext fun c => { c with isBindingElement := true }
  let first ← inherit (g .assignment)
  let (value, isArrow) ← if ← matchP "," then groupRest g start first else pure (first, false)
  if isArrow then return value
  expectP ")"
  let result ←
    if ← matchP "=>" then
      if isType value "Identifier" && nameOf value == "yield" then
        pure (arrowParameters [value] false)
      else
        if !(← context).isBindingElement then unexpected (← ahead?)
        let parameters :=
          if isType value "SequenceExpression" then (value.get "expressions").items else [value]
        pure (arrowParameters parameters false)
    else pure value
  modifyContext fun c => { c with isBindingElement := false }
  return result

/-- The arguments of a call, in parentheses. The arguments behind `async` may turn out to be
parameters, so an initialiser among them is forgiven. -/
def callArguments (g : Reader) (maybeParameters : Bool) : P (List Estree) := do
  expectP "("
  let argument : P Estree := do
    if ← matchP "..." then spread g
    else if maybeParameters then
      isolate do
        let value ← g .assignment
        modifyContext fun c => { c with coverInitializer := none }
        return value
    else isolate (g .assignment)
  let found ← repeatStep ([] : List Estree) fun found => do
    if ← matchP ")" then return .inr found.reverse
    let value ← argument
    if !(← matchP ")") then expectP ","
    return .inl (value :: found)
  expectP ")"
  return found

/-- A call of `new`, or the property `new.target`. -/
def newExpression (g : Reader) : P Estree := do
  let start ← startIndex
  let word ← wordName
  if ← matchP "." then
    let _ ← nextToken
    let token ← ahead?
    if token.isName "target" && (← context).inFunctionBody then
      let property ← wordName
      node "MetaProperty" start [("meta", word), ("property", property)]
    else unexpected token
  else if ← matchK "import" then unexpected (← ahead?)
  else
    let callee ← isolate (g .newTarget)
    let found ← if ← matchP "(" then callArguments g false else pure []
    notTarget
    node "NewExpression" start [("callee", callee), ("arguments", .list found)]

/-- The word `import` is ahead and a parenthesis follows. -/
def matchImportCall : P Bool := do
  if ← matchK "import" then
    return (← peekToken).isPunctuator "("
  else return false

/-- An expression without operators. -/
def primary (g : Reader) : P Estree := do
  let start ← startIndex
  let token ← ahead?
  match token.type with
  | .identifier =>
      if token.value == "await" then unexpected token
      if ← matchAsyncFunction then function g false false
      else
        let _ ← nextToken
        node "Identifier" start [("name", .text token.value)]
  | .numeric | .string =>
      if token.octal then failAt token .strictOctal
      notTarget
      let _ ← nextToken
      literal start token
  | .boolean | .null =>
      notTarget
      let _ ← nextToken
      node "Literal" start []
  | .template => template g
  | .punctuator =>
      if token.value == "(" then
        modifyContext fun c => { c with isBindingElement := false }
        inherit (groupExpression g)
      else if token.value == "[" then inherit (arrayLiteral g)
      else if token.value == "\x7b" then inherit (objectLiteral g)
      else if token.value == "/" || token.value == "/=" then
        notTarget
        moveTo (← startIndex)
        let _ ← nextRegExp
        node "Literal" start []
      else if token.value == "<" then g .markupRoot
      else unexpected (← nextToken)
  | .keyword =>
      notTarget
      if token.value == "function" then function g false false
      else if token.value == "this" then
        let _ ← nextToken
        node "ThisExpression" start []
      else if token.value == "class" then classNode g false true
      else if ← matchImportCall then
        let _ ← nextToken
        node "Import" start []
      else unexpected (← nextToken)
  | _ => unexpected (← nextToken)

/-- A member access or a tagged template behind an expression, if one is ahead. -/
def accessTail (g : Reader) (start : Nat) (value : Estree) : P (Option Estree) := do
  let token ← ahead?
  if token.isPunctuator "." then
    modifyContext fun c => { c with isBindingElement := false, isAssignmentTarget := true }
    expectP "."
    let property ← wordName
    return some (← node "MemberExpression" start
      [("computed", .bool false), ("object", value), ("property", property)])
  else if token.isPunctuator "[" then
    modifyContext fun c => { c with isBindingElement := false, isAssignmentTarget := true }
    expectP "["
    let property ← isolate (g .expression)
    expectP "]"
    return some (← node "MemberExpression" start
      [("computed", .bool true), ("object", value), ("property", property)])
  else if token.type == .template && token.head then
    let quasi ← template g
    return some (← node "TaggedTemplateExpression" start [("tag", value), ("quasi", quasi)])
  else return none

/-- The word `super`, which only the body of a function may use and which one of these marks must
follow. -/
def superWord (marks : List Text) : P Estree := do
  let start ← startIndex
  expectK "super"
  let next ← ahead?
  if !(marks.any next.isPunctuator) then unexpected next
  node "Super" start []

/-- What `new` may call: an expression without a call of its own. -/
def newTarget (g : Reader) : P Estree := do
  let start := (← ahead?).start
  let first ←
    if (← matchK "super") && (← context).inFunctionBody then superWord ["[", "."]
    else if ← matchK "new" then inherit (newExpression g)
    else inherit (primary g)
  repeatStep first fun value => do
    match ← accessTail g start value with
    | some value => return .inl value
    | none => return .inr value

/-- An expression with its calls and member accesses. -/
def callTarget (g : Reader) : P Estree := do
  let token ← ahead?
  let start := token.start
  let maybeAsync := token.isName "async"
  withIn true do
    let first ←
      if (← matchK "super") && (← context).inFunctionBody then superWord ["(", ".", "["]
      else if ← matchK "new" then inherit (newExpression g)
      else inherit (primary g)
    repeatStep first fun value => do
      let next ← ahead?
      if next.isPunctuator "(" then
        let asyncArrow := maybeAsync && token.line == next.line
        notTarget
        let found ← callArguments g asyncArrow
        if isType value "Import" && found.length != 1 then failHere .unexpected
        if asyncArrow && (← matchP "=>") then return .inl (arrowParameters found true)
        return .inl (← node "CallExpression" start
          [("callee", value), ("arguments", .list found)])
      match ← accessTail g start value with
      | some value => return .inl value
      | none => return .inr value

/-! ## Operators -/

/-- The operand of an increment or decrement must be assignable. -/
def checkUpdateTarget (value : Estree) (complaint : Complaint) : P Unit := do
  if isType value "Identifier" && isRestricted (nameOf value) then failHere complaint
  if !(← context).isAssignmentTarget then failHere .assignmentTarget

/-- An expression with increment or decrement. -/
def update (g : Reader) : P Estree := do
  let start := (← ahead?).start
  if (← matchP "++") || (← matchP "--") then
    let _ ← nextToken
    let value ← inherit (g .unary)
    checkUpdateTarget value .strictPrefix
    let result ← node "UpdateExpression" start [("argument", value)]
    notTarget
    return result
  let value ← inherit (callTarget g)
  if !(← get).newlineBefore && ((← matchP "++") || (← matchP "--")) then
    checkUpdateTarget value .strictPostfix
    notTarget
    let _ ← nextToken
    node "UpdateExpression" start [("argument", value)]
  else return value

/-- The token is a unary operator. -/
def Token.isUnary (token : Token) : Bool :=
  match token.type with
  | .punctuator =>
      token.value == "+" || token.value == "-" || token.value == "~" || token.value == "!"
  | .keyword => token.value == "delete" || token.value == "void" || token.value == "typeof"
  | _ => false

/-- An expression with unary operators. -/
def unary (g : Reader) : P Estree := do
  let token ← ahead?
  if token.isUnary then
    let _ ← nextToken
    let value ← inherit (g .unary)
    let result ← node "UnaryExpression" token.start [("argument", value)]
    if token.value == "delete" && isType value "Identifier" then failHere .strictDelete
    notTarget
    return result
  else if (← context).allowAwait && token.isName "await" then
    let start ← startIndex
    let _ ← nextToken
    let value ← g .unary
    node "AwaitExpression" start [("argument", value)]
  else update g

/-- An expression with powers. -/
def exponentiation (g : Reader) : P Estree := do
  let start := (← ahead?).start
  let value ← inherit (unary g)
  if !isType value "UnaryExpression" && (← matchP "**") then
    let _ ← nextToken
    notTarget
    let right ← isolate (g .exponentiation)
    node "BinaryExpression" start [("left", value), ("right", right)]
  else return value

/-- The binary operators and how strongly they bind. -/
def precedences : List (Text × Nat) :=
  [("||", 1), ("&&", 2), ("|", 3), ("^", 4), ("&", 5), ("==", 6), ("!=", 6), ("===", 6),
    ("!==", 6), ("<", 7), (">", 7), ("<=", 7), (">=", 7), ("<<", 8), (">>", 8), (">>>", 8),
    ("+", 9), ("-", 9), ("*", 11), ("/", 11), ("%", 11)].map fun (op, n) => (Text.ofString op, n)

/-- How strongly the token ahead binds as a binary operator, and zero if it is none. -/
def precedence : P Nat := do
  let token ← ahead?
  match token.type with
  | .punctuator => return (precedences.lookup token.value).getD 0
  | .keyword =>
      if token.value == "instanceof" || (token.value == "in" && (← context).allowIn) then return 7
      else return 0
  | _ => return 0

/-- A left operand that waits for its right one: the operand, where it starts, and how strongly its
operator binds. -/
structure Waiting where
  left : Estree
  start : Nat
  strength : Nat

/-- Give their right operand to all waiting operands that bind at least this strongly. -/
def reduce (strength : Nat) : List Waiting → Estree → Nat → P (List Waiting × Estree × Nat)
  | [], right, start => return ([], right, start)
  | top :: rest, right, start => do
      if strength ≤ top.strength then
        let joined ← node "BinaryExpression" top.start [("left", top.left), ("right", right)]
        reduce strength rest joined top.start
      else return (top :: rest, right, start)

/-- An expression with binary operators. -/
def binary (g : Reader) : P Estree := do
  let start := (← ahead?).start
  let first ← inherit (exponentiation g)
  if (← precedence) == 0 then return first
  notTarget
  repeatStep (([] : List Waiting), first, start) fun (waiting, value, start) => do
    let strength ← precedence
    let (waiting, value, start) ← reduce strength waiting value start
    if strength == 0 then return .inr value
    let _ ← nextToken
    let nextStart := (← ahead?).start
    let right ← isolate (exponentiation g)
    return .inl (⟨value, start, strength⟩ :: waiting, right, nextStart)

/-- A conditional expression. -/
def conditional (g : Reader) : P Estree := do
  let start := (← ahead?).start
  let test ← inherit (binary g)
  if ← acceptP "?" then
    let consequent ← withIn true (isolate (g .assignment))
    expectP ":"
    let alternate ← isolate (g .assignment)
    let result ← node "ConditionalExpression" start
      [("test", test), ("consequent", consequent), ("alternate", alternate)]
    notTarget
    return result
  else return test

/-- The token ahead can start an expression. -/
def startsExpression : P Bool := do
  let token ← ahead?
  match token.type with
  | .punctuator =>
      return (["[", "(", "\x7b", "+", "-", "!", "~", "++", "--", "/", "/=", "<"].map
        Text.ofString).contains token.value
  | .keyword =>
      return (["class", "delete", "function", "let", "new", "super", "this", "typeof", "void",
        "yield"].map Text.ofString).contains token.value
  | _ => return true

/-- A yield expression. -/
def yieldExpression (g : Reader) : P Estree := do
  let start ← startIndex
  expectK "yield"
  let argument ←
    if (← get).newlineBefore then pure .null
    else
      withYield false do
        if ← acceptP "*" then g .assignment
        else if ← startsExpression then g .assignment
        else pure .null
  node "YieldExpression" start [("argument", argument)]

/-- An arrow function from its arrow on. -/
def arrowFunction (g : Reader) (start : Nat) (isAsync : Bool) (parameters : Parameters) :
    P Estree := do
  if (← get).newlineBefore then unexpected (← ahead?)
  modifyContext fun c => { c with coverInitializer := none }
  let before := (← context).allowStrictDirective
  modifyContext fun c => { c with allowStrictDirective := parameters.simple }
  let result ← withFunction true isAsync do
    expectP "=>"
    let body ←
      if ← matchP "\x7b" then withIn true (functionBody g) else isolate (g .assignment)
    reportOffence parameters.offence
    node "ArrowFunctionExpression" start [("params", .list parameters.nodes), ("body", body)]
  modifyContext fun c => { c with allowStrictDirective := before }
  return result

/-- An expression without commas. -/
def assignment (g : Reader) : P Estree := do
  let token ← ahead?
  if !(← context).allowYield && token.isKeyword "yield" then yieldExpression g
  else
    let first ← conditional g
    let next ← ahead?
    let value ←
      if token.isName "async" && token.line == next.line
          && (next.type == .identifier || next.isKeyword "yield") then do
        let argument ← primary g
        pure (arrowParameters [argument] true)
      else pure first
    if isType value "ArrowParameterPlaceHolder" || (← matchP "=>") then
      notTarget
      match ← coverParameters value with
      | some parameters => arrowFunction g token.start ((value.get "async").truthy) parameters
      | none => return value
    else if ← matchAssignment then
      if !(← context).isAssignmentTarget then failHere .assignmentTarget
      if isType value "Identifier" then
        if isRestricted (nameOf value) then failAt token .strictAssignment
        if isStrictReserved (nameOf value) then failAt token .strictReservedWord
      if !(← matchP "=") then notTarget
      let _ ← nextToken
      let right ← isolate (g .assignment)
      let result ← node "AssignmentExpression" token.start [("left", value), ("right", right)]
      modifyContext fun c => { c with coverInitializer := none }
      return result
    else return value

/-- An expression, with commas or without. -/
def expression (g : Reader) : P Estree := do
  let start := (← ahead?).start
  let first ← isolate (g .assignment)
  if ← matchP "," then
    let more ← manyUntil (return !(← matchP ",")) do
      let _ ← nextToken
      return [← isolate (g .assignment)]
    node "SequenceExpression" start [("expressions", .list (first :: more))]
  else return first

end StoryCatalog.Script.Strict
