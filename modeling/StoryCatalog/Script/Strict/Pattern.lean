import StoryCatalog.Script.Strict.Cover

/-!
# Names, patterns and parameters

Binding patterns, the names they bind, and lists of formal parameters.
-/

namespace StoryCatalog.Script.Strict

/-- A name that is being bound or assigned. -/
def bindingName : P Estree := do
  let start ← startIndex
  let token ← nextToken
  if token.type != .identifier then
    if token.type == .keyword && isStrictReserved token.value then
      failAt token .strictReservedWord
    else unexpected token
  if token.value == "await" then unexpected token
  node "Identifier" start [("name", .text token.value)]

/-- The token is a word, reserved or not. -/
def Token.isWord (token : Token) : Bool :=
  token.type == .identifier || token.type == .keyword || token.type == .boolean
    || token.type == .null

/-- A word as a name. -/
def wordName : P Estree := do
  let start ← startIndex
  let token ← nextToken
  if !token.isWord then unexpected token
  node "Identifier" start [("name", .text token.value)]

/-- The literal that a string or number token makes. -/
def literal (start : Nat) (token : Token) : P Estree :=
  node "Literal" start (if token.type == .string then [("value", .text token.value)] else [])

/-- Read an expression inside a pattern. The names that it binds are not the pattern's. -/
def apart {α : Type} (step : P α) : P α := do
  let before := (← get).bound
  let result ← step
  modify fun s => { s with bound := before }
  return result

/-- The key of a property. -/
def propertyKey (g : Reader) : P Estree := do
  let start ← startIndex
  let token ← nextToken
  match token.type with
  | .string | .numeric =>
      if token.octal then failAt token .strictOctal
      literal start token
  | .identifier | .boolean | .null | .keyword =>
      node "Identifier" start [("name", .text token.value)]
  | .punctuator =>
      if token.value == "[" then
        let key ← apart (isolate (g .assignment))
        expectP "]"
        return key
      else unexpected token
  | _ => unexpected token

/-- The key spells this name. -/
def keyIs (key : Estree) (name : Text) : Bool :=
  (isType key "Identifier" && nameOf key == name)
    || (isType key "Literal" && (key.get "value").text? == some name)

/-- The token can start the key of a property. -/
def Token.startsKey (token : Token) : Bool :=
  match token.type with
  | .identifier | .string | .boolean | .null | .numeric | .keyword => true
  | .punctuator => token.value == "["
  | _ => false

/-- Remember a token that binds a name. -/
def bind (token : Token) : P Unit :=
  modify fun s => { s with bound := token :: s.bound }

/-- A pattern with an optional default value. -/
def patternWithDefault (g : Reader) (kind : BindingKind) : P Estree := do
  let start ← startIndex
  let target ← g (.pattern kind)
  if ← acceptP "=" then
    let value ← apart (withYield true (isolate (g .assignment)))
    node "AssignmentPattern" start [("left", target), ("right", value)]
  else return target

/-- A pattern behind three dots. -/
def restPattern (g : Reader) (kind : BindingKind) : P Estree := do
  let start ← startIndex
  expectP "..."
  let argument ← g (.pattern kind)
  node "RestElement" start [("argument", argument)]

/-- A pattern in brackets. -/
def arrayPattern (g : Reader) (kind : BindingKind) : P Estree := do
  let start ← startIndex
  expectP "["
  let elements ← repeatStep ([] : List Estree) fun elements => do
    if ← matchP "]" then return .inr elements
    if ← acceptP "," then return .inl (.null :: elements)
    if ← matchP "..." then return .inr ((← restPattern g kind) :: elements)
    let element ← patternWithDefault g kind
    if !(← matchP "]") then expectP ","
    return .inl (element :: elements)
  expectP "]"
  node "ArrayPattern" start [("elements", .list elements.reverse)]

/-- A property of a pattern in braces. -/
def propertyPattern (g : Reader) (kind : BindingKind) : P Estree := do
  let start ← startIndex
  let token ← ahead?
  if token.type == .identifier then
    let key ← bindingName
    if ← matchP "=" then
      bind token
      let _ ← nextToken
      let value ← apart (g .assignment)
      let target ← node "AssignmentPattern" start [("left", key), ("right", value)]
      node "Property" start [("key", key), ("value", target)]
    else if ← matchP ":" then
      let _ ← nextToken
      let value ← patternWithDefault g kind
      node "Property" start [("key", key), ("value", value)]
    else
      bind token
      node "Property" start [("key", key), ("value", key)]
  else
    let key ← propertyKey g
    expectP ":"
    let value ← patternWithDefault g kind
    node "Property" start [("key", key), ("value", value)]

/-- The remaining properties of a pattern in braces. -/
def restProperty (g : Reader) : P Estree := do
  let target ← restPattern g .parameter
  if ← matchP "=" then fail .equalsToken
  if !(← matchP "\x7d") then fail .unexpected
  return target

/-- A pattern in braces. -/
def objectPattern (g : Reader) (kind : BindingKind) : P Estree := do
  let start ← startIndex
  expectP "\x7b"
  let properties ← manyUntil (matchP "\x7d") do
    let property ← if ← matchP "..." then restProperty g else propertyPattern g kind
    if !(← matchP "\x7d") then expectP ","
    return [property]
  expectP "\x7d"
  node "ObjectPattern" start [("properties", .list properties)]

/-- A binding pattern. -/
def bindingPattern (g : Reader) (kind : BindingKind) : P Estree := do
  if ← matchP "[" then arrayPattern g kind
  else if ← matchP "\x7b" then objectPattern g kind
  else
    let token ← ahead?
    if kind == .lexical && token.isKeyword "let" then failAt token .letAsName
    bind token
    bindingName

/-! ## Parameters -/

/-- A list of parameters: whether all are plain names, and what is wrong with the names in strict
code, with the token to blame if there is one. -/
structure Parameters where
  nodes : List Estree
  simple : Bool
  offence : Option (Complaint × Option Token)

/-- Complain of an offence. -/
def reportOffence (offence : Option (Complaint × Option Token)) : P Unit :=
  match offence with
  | none => return ()
  | some (complaint, some token) => failAt token complaint
  | some (complaint, none) => fail complaint

/-- The latest offence among parameter names: a restricted name, or a name that occurs before. -/
def nameOffence (names : List (Text × Option Token)) : Option (Complaint × Option Token) :=
  (names.foldl (fun (seen, offence) (name, token) =>
    let offence :=
      if seen.contains name then some (Complaint.strictParameterTwice, token)
      else if isRestricted name then some (Complaint.strictParameterName, token)
      else offence
    (name :: seen, offence)) (([] : List Text), none)).2

/-- A rest parameter, which must be the last one. -/
def restParameter (g : Reader) : P Estree := do
  let target ← restPattern g .parameter
  if ← matchP "=" then fail .equalsToken
  if !(← matchP ")") then fail .restNotLast
  return target

/-- The parameters of a function, in parentheses. -/
def formalParameters (g : Reader) : P Parameters := do
  let before := (← get).bound
  modify fun s => { s with bound := [] }
  expectP "("
  let parameter : P Estree := do
    if ← matchP "..." then restParameter g else patternWithDefault g .parameter
  let nodes ← repeatStep ([] : List Estree) fun nodes => do
    if (← matchP ")") || (← ahead?).type == .eof then return .inr nodes.reverse
    let found ← parameter
    if ← matchP ")" then return .inr (found :: nodes).reverse
    expectP ","
    return .inl (found :: nodes)
  expectP ")"
  let names := (← get).bound.reverse.map fun token => (token.value, some token)
  modify fun s => { s with bound := before }
  return ⟨nodes, nodes.all fun n => isType n "Identifier", nameOffence names⟩

/-- The names that an expression binds when it is read as a parameter, at most this deep. -/
def coverNames : Nat → Estree → List Text
  | 0, _ => []
  | depth + 1, value =>
      let type := ((value.get "type").text?).getD []
      if type == "Identifier" then [nameOf value]
      else if type == "RestElement" || type == "SpreadElement" then
        coverNames depth (value.get "argument")
      else if type == "AssignmentPattern" || type == "AssignmentExpression" then
        coverNames depth (value.get "left")
      else if type == "ArrayPattern" || type == "ArrayExpression" then
        (value.get "elements").items.flatMap (coverNames depth)
      else if type == "ObjectPattern" || type == "ObjectExpression" then
        (value.get "properties").items.flatMap fun property =>
          coverNames depth (if isType property "Property" then property.get "value" else property)
      else []

/-- An expression read as the parameters of an arrow function, if it can be one. -/
def coverParameters (value : Estree) : P (Option Parameters) := do
  let isList := isType value "ArrowParameterPlaceHolder"
  if !isList && !isType value "Identifier" then return none
  let nodes := if isList then (value.get "params").items else [value]
  let isAsync := isList && (value.get "async").truthy
  let token ← ahead?
  for parameter in nodes do
    if isType parameter "AssignmentPattern" || isType parameter "AssignmentExpression" then
      let right := parameter.get "right"
      if isType right "YieldExpression" && !(right.get "argument").isNull then unexpected token
    else if isAsync && isType parameter "Identifier" && nameOf parameter == "await" then
      unexpected token
  if nodes.any fun n => isType n "YieldExpression" then unexpected token
  let names := nodes.flatMap fun n => coverNames n.size n
  let offence := nameOffence (names.map fun name => (name, none))
  match offence with
  | some (.strictParameterTwice, _) => fail .strictParameterTwice
  | _ => return some ⟨nodes, nodes.all fun n => isType n "Identifier", offence⟩

end StoryCatalog.Script.Strict
