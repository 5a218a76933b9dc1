import StoryCatalog.Script.Strict.Numeral
import StoryCatalog.Script.Strict.Statement

/-!
# Modules

Imports, exports, and the reading of a whole script as a module. The reading of a script either
gives an attribute tree or says what is wrong and where.
-/

namespace StoryCatalog.Script.Strict

/-! ## Imports and exports -/

/-- The string that names a module. -/
def moduleSpecifier : P Estree := do
  let start ← startIndex
  if (← ahead?).type != .string then fail .unexpected
  literal start (← nextToken)

/-- What a message shows of a token, and nothing for the number zero. -/
def shownValue (token : Token) : P Text := do
  if token.type == .numeric then
    let numeral := ((← read).toList.drop token.start).take (token.stop - token.start)
    let value := Numeral.shown numeral token.octal
    return if value == "0" then [] else value
  else return token.value

/-- Consume the word `from`. -/
def expectFrom : P Unit := do
  let token ← ahead?
  if !token.isName "from" then
    let value ← shownValue token
    fail (if value.isEmpty then .unexpected else .unexpectedToken value)
  let _ ← nextToken

/-- One name of an import list. -/
def importSpecifier : P Estree := do
  let start ← startIndex
  let isName := (← ahead?).type == .identifier
  let imported ← if isName then bindingName else wordName
  let binding ←
    if ← matchName "as" then do
      let _ ← nextToken
      bindingName
    else if isName then pure imported
    else unexpected (← nextToken)
  node "ImportSpecifier" start [("imported", imported), ("local", binding)]

/-- An import list, in braces. -/
def importList : P (List Estree) := do
  expectP "\x7b"
  let found ← manyUntil (matchP "\x7d") do
    let specifier ← importSpecifier
    if !(← matchP "\x7d") then expectP ","
    return [specifier]
  expectP "\x7d"
  return found

/-- The import of a whole module under a name. -/
def importNamespace : P (List Estree) := do
  let start ← startIndex
  expectP "*"
  if !(← matchName "as") then fail .unexpected
  let _ ← nextToken
  let name ← wordName
  return [← node "ImportNamespaceSpecifier" start [("local", name)]]

/-- What an import brings in. -/
def importClause : P (List Estree) := do
  let token ← ahead?
  if token.isPunctuator "\x7b" then importList
  else if token.isPunctuator "*" then importNamespace
  else if token.isWord && !token.isKeyword "default" then
    let start ← startIndex
    let name ← wordName
    let first ← node "ImportDefaultSpecifier" start [("local", name)]
    if ← acceptP "," then
      if ← matchP "*" then return first :: (← importNamespace)
      else if ← matchP "\x7b" then return first :: (← importList)
      else unexpected (← ahead?)
    else return [first]
  else unexpected (← nextToken)

/-- An import declaration. -/
def importDeclaration : P Estree := do
  if (← context).inFunctionBody then fail .unexpected
  let start ← startIndex
  expectK "import"
  let specifiers ←
    if (← ahead?).type == .string then pure []
    else do
      let found ← importClause
      expectFrom
      pure found
  let source ← moduleSpecifier
  consumeSemicolon
  node "ImportDeclaration" start [("specifiers", .list specifiers), ("source", source)]

/-- One name of an export list. -/
def exportSpecifier : P Estree := do
  let start ← startIndex
  let binding ← wordName
  let exported ← if ← matchName "as" then do
      let _ ← nextToken
      wordName
    else pure binding
  node "ExportSpecifier" start [("local", binding), ("exported", exported)]

/-- What stands behind `export default`. -/
def defaultExport (g : Reader) : P Estree := do
  let token ← ahead?
  if token.isKeyword "function" then function g true true
  else if token.isKeyword "class" then classNode g true true
  else if token.isName "async" then
    if ← matchAsyncFunction then function g true true else g .assignment
  else
    if token.isName "from" then fail (.unexpectedToken token.value)
    let value ←
      if token.isPunctuator "\x7b" then objectLiteral g
      else if token.isPunctuator "[" then arrayLiteral g
      else g .assignment
    consumeSemicolon
    return value

/-- The names of an export list, in braces, and whether the word `default` is among them. -/
def exportNames : P (List Estree × Bool) := do
  expectP "\x7b"
  let found ← repeatStep (([] : List Estree), false) fun (found, hasDefault) => do
    if ← matchP "\x7d" then return .inr (found.reverse, hasDefault)
    let isDefault ← matchK "default"
    let specifier ← exportSpecifier
    if !(← matchP "\x7d") then expectP ","
    return .inl (specifier :: found, hasDefault || isDefault)
  expectP "\x7d"
  return found

/-- A single name or an export list, or both, with the module that the names come from, if there is
one. -/
def exportList (start : Nat) : P Estree := do
  let first ←
    if (← ahead?).type == .identifier then do
      let start ← startIndex
      let name ← wordName
      pure [← node "ExportDefaultSpecifier" start [("local", name)]]
    else pure []
  let (found, hasDefault) ←
    if first.isEmpty || (← acceptP ",") then exportNames else pure ([], false)
  let source ←
    if ← matchName "from" then do
      let _ ← nextToken
      let source ← moduleSpecifier
      consumeSemicolon
      pure source
    else
      if hasDefault then
        expectFrom
      consumeSemicolon
      pure .null
  node "ExportNamedDeclaration" start
    [("specifiers", .list (first ++ found)), ("source", source)]

/-- An export declaration. -/
def exportDeclaration (g : Reader) : P Estree := do
  if (← context).inFunctionBody then fail .unexpected
  let start ← startIndex
  expectK "export"
  let token ← ahead?
  if token.isKeyword "default" then
    let _ ← nextToken
    let declaration ← defaultExport g
    node "ExportDefaultDeclaration" start [("declaration", declaration)]
  else if token.isPunctuator "*" then
    let _ ← nextToken
    expectFrom
    let source ← moduleSpecifier
    consumeSemicolon
    node "ExportAllDeclaration" start [("source", source)]
  else if token.type == .keyword then
    let declaration ←
      if token.value == "let" || token.value == "const" then lexicalDeclaration g
      else if token.value == "var" || token.value == "class" || token.value == "function" then
        g .listItem
      else unexpected token
    node "ExportNamedDeclaration" start [("declaration", declaration)]
  else if ← matchAsyncFunction then
    let declaration ← function g true false
    node "ExportNamedDeclaration" start [("declaration", declaration)]
  else exportList start

/-- A statement or declaration. -/
def listItem (g : Reader) : P Estree := do
  modifyContext fun c => { c with isAssignmentTarget := true, isBindingElement := true }
  let token ← ahead?
  if token.type != .keyword then statement g
  else if token.value == "export" then exportDeclaration g
  else if token.value == "import" then
    if ← matchImportCall then expressionStatement g else importDeclaration
  else if token.value == "const" then lexicalDeclaration g
  else if token.value == "function" then function g true false
  else if token.value == "class" then classNode g true false
  else if token.value == "let" then
    if ← matchLexicalDeclaration then lexicalDeclaration g else statement g
  else statement g

/-! ## The whole script -/

/-- Read by a rule whose uses are nested at most this deep. -/
def readRule : Nat → Reader
  | 0, _ => scanFail .illegalToken
  | depth + 1, rule =>
      let g := readRule depth
      match rule with
      | .assignment => assignment g
      | .expression => expression g
      | .unary => unary g
      | .exponentiation => exponentiation g
      | .newTarget => newTarget g
      | .callTarget => callTarget g
      | .primary => primary g
      | .statement => statement g
      | .listItem => listItem g
      | .pattern kind => bindingPattern g kind
      | .markupRoot => rootElement g
      | .markupElement => element g

/-- The state before the first token. -/
def State.initial (length : Nat) : State :=
  let line := if length == 0 then 0 else 1
  { index := 0, line, lineStart := 0, braces := [], strict := false
    lookahead := ⟨.eof, [], line, 0, 0, 0, false, false, false⟩
    newlineBefore := false, start := ⟨0, line, 0⟩, last := ⟨0, line, 0⟩, bound := []
    context :=
      { allowIn := true, allowYield := true, allowAwait := false, allowStrictDirective := true
        coverInitializer := none, isAssignmentTarget := false, isBindingElement := false
        inFunctionBody := false, inIteration := false, inSwitch := false, labels := [] } }

/-- A whole module. The first token is scanned before the script is known to be strict. -/
def moduleNode (g : Reader) : P Estree := do
  let _ ← nextToken
  let last ← here
  modify fun s => { s with last, strict := true }
  let start ← startIndex
  let opening ← directives g
  let body ← manyUntil (return (← ahead?).type == .eof) (return [← g .listItem])
  node "Program" start [("body", .list (opening ++ body))]

/-- Read a script as a strict module. -/
def readModule (source : String) : Except Failure Estree :=
  let script := source.toList.toArray
  ((moduleNode (readRule (4 * script.size + 16))).run script (State.initial script.size)).map
    Prod.fst

end StoryCatalog.Script.Strict
