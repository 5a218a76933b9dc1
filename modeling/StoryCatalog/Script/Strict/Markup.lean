import StoryCatalog.Script.Strict.Expression

/-!
# Markup in scripts

Elements with attributes and children. Inside markup the script is scanned by other rules: the
token ahead is given back first, and read again by the ordinary rules afterwards.
-/

namespace StoryCatalog.Script.Strict

/-! ## Scanning inside markup -/

/-- Go back to the start of the token ahead. -/
def enterMarkup : P Unit :=
  modify fun s =>
    { s with index := s.start.index, line := s.start.line, lineStart := s.start.lineStart }

/-- Scan the token ahead by the ordinary rules. -/
def leaveMarkup : P Unit := do
  let _ ← nextToken

/-- Make sure that the digits up to the scanning place stand for a character. -/
def checkReference (base start : Nat) : P Unit := do
  let digits := (← read).extract start (← get).index
  let value := digits.foldl (fun value c => value * base + hexDigitValue c) 0
  match ReferenceFault.ofDigits? base digits.size value with
  | some fault => throw (.reference fault)
  | none => return ()

/-- Skip an entity behind its ampersand. It ends at a semicolon, before the enclosing quote, or
behind a character that it cannot have. -/
def skipEntity (quote : Char) : P Unit := do
  let start := (← get).index
  repeatStep (1, false, false) fun (length, numeric, hex) => do
    if ← atEnd then return .inr ()
    let c ← current
    if c == quote then return .inr ()
    if c == ';' then
      if numeric then checkReference 10 (start + 1)
      if hex then checkReference 16 (start + 2)
      advance 1
      return .inr ()
    advance 1
    let length := length + 1
    if length == 2 then return .inl (length, c == '#', hex)
    else if length == 3 then
      if numeric then
        if c == 'x' then return .inl (length, false, true)
        else if isDecimalDigit c then return .inl (length, true, false)
        else return .inr ()
      else return .inl (length, numeric, hex)
    else if (numeric && !isDecimalDigit c) || (hex && !isHexDigit c) then return .inr ()
    else return .inl (length, numeric, hex)

/-- The marks that are tokens inside markup. -/
def isMarkupMark (c : Char) : Bool :=
  c == '<' || c == '>' || c == '/' || c == ':' || c == '=' || c == '\x7b' || c == '\x7d'

/-- Scan a token by the rules of markup. -/
def scanMarkupToken : P Token := do
  let start := (← get).index
  let c ← current
  if isMarkupMark c then
    advance 1
    finish .punctuator [CodePoint.ofChar c] start
  else if c == '"' || c == '\'' then
    advance 1
    let stop ← repeatStep () fun _ => do
      if ← atEnd then return .inr (← get).index
      let d ← current
      advance 1
      if d == c then return .inr ((← get).index - 1)
      if d == '&' then skipEntity c
      return .inl ()
    finish .string (← textBetween (start + 1) stop) start
  else if c == '.' then
    if (← ahead 1) == '.' && (← ahead 2) == '.' then
      advance 3
      finish .punctuator "..." start
    else
      advance 1
      finish .punctuator "." start
  else if c == '\x60' then finish .template [] start
  else if isNameStart c.toNat && c != '\\' then
    advance 1
    let _ ← repeatStep () fun _ => do
      let d ← current
      if !(← atEnd) && ((isNamePart d.toNat && d != '\\') || d == '-') then
        advance 1
        return .inl ()
      else return .inr ()
    finish .markupName (← textBetween start (← get).index) start
  else scanToken

/-- Consume a token by the rules of markup. -/
def nextMarkupToken : P Token := do
  skipComments
  let start ← here
  modify fun s => { s with start }
  let token ← scanMarkupToken
  let last ← here
  modify fun s => { s with last }
  return token

/-- Look at the next token by the rules of markup. -/
def peekMarkupToken : P Token := do
  let s ← get
  skipComments
  let token ← scanMarkupToken
  modify fun t => { t with index := s.index, line := s.line, lineStart := s.lineStart }
  return token

/-- Skip the text up to a brace or an opening mark, and say whether there was any. -/
def skipMarkupText : P Bool := do
  let start ← here
  modify fun s => { s with start }
  let _ ← repeatStep () fun _ => do
    if ← atEnd then return .inr ()
    let c ← current
    if c == '\x7b' || c == '<' then return .inr ()
    advance 1
    if isLineTerminator c then endLine c
    return .inl ()
  let last ← here
  modify fun s => { s with last }
  return start.index < last.index

/-- Consume this mark or refuse the token. -/
def expectMark (value : Text) : P Unit := do
  let token ← nextMarkupToken
  if !token.isPunctuator value then unexpected token

/-- The next token is this mark. -/
def matchMark (value : Text) : P Bool := do
  return (← peekMarkupToken).isPunctuator value

/-- The index behind the blanks and comments at the scanning place. -/
def markupStart : P Nat := do
  skipComments
  return (← get).index

/-- Read an expression in braces, behind the opening one. -/
def bracedExpression (g : Reader) : P Estree := do
  let value ← g .assignment
  enterMarkup
  expectMark "\x7d"
  return value

/-! ## Elements -/

/-- A name. -/
def markupName : P (Estree × Text) := do
  let start ← markupStart
  let token ← nextMarkupToken
  if token.type != .markupName then unexpected token
  return (← node "JSXIdentifier" start [("name", .text token.value)], token.value)

/-- The name of an element: a name, a name in a namespace, or a member access. The text is how the
closing tag has to repeat it. -/
def elementName : P (Estree × Text) := do
  let start ← markupStart
  let (first, text) ← markupName
  if ← matchMark ":" then
    expectMark ":"
    let (name, more) ← markupName
    return (← node "JSXNamespacedName" start [("namespace", first), ("name", name)],
      text ++ ":" ++ more)
  else
    repeatStep (first, text) fun (object, text) => do
      if ← matchMark "." then
        expectMark "."
        let (property, more) ← markupName
        let name ← node "JSXMemberExpression" start [("object", object), ("property", property)]
        return .inl (name, text ++ "." ++ more)
      else return .inr (object, text)

/-- The value of an attribute. -/
def attributeValue (g : Reader) : P Estree := do
  if ← matchMark "\x7b" then
    let start ← markupStart
    expectMark "\x7b"
    leaveMarkup
    if ← matchP "\x7d" then failHere .emptyMarkupAttribute
    let value ← bracedExpression g
    node "JSXExpressionContainer" start [("expression", value)]
  else if ← matchMark "<" then g .markupElement
  else
    let start ← markupStart
    let token ← nextMarkupToken
    if token.type != .string then unexpected token
    literal start token

/-- An attribute. -/
def elementAttribute (g : Reader) : P Estree := do
  let start ← markupStart
  if ← matchMark "\x7b" then
    expectMark "\x7b"
    expectMark "..."
    leaveMarkup
    let value ← bracedExpression g
    node "JSXSpreadAttribute" start [("argument", value)]
  else
    let (first, _) ← markupName
    let name ←
      if ← matchMark ":" then do
        expectMark ":"
        let (second, _) ← markupName
        node "JSXNamespacedName" start [("namespace", first), ("name", second)]
      else pure first
    let value ← if ← matchMark "=" then do
        expectMark "="
        attributeValue g
      else pure .null
    node "JSXAttribute" start [("name", name), ("value", value)]

/-- A tag: its node, the text of its name, and what kind of tag it is. -/
inductive Tag where
  | opening (node : Estree) (name : Text)
  | selfClosing (node : Estree)
  | closing (node : Estree) (name : Text)

/-- The rest of an opening tag behind its first mark. -/
def openingTag (g : Reader) (start : Nat) : P Tag := do
  let (name, text) ← elementName
  let attributes ← manyUntil (return (← matchMark "/") || (← matchMark ">")) do
    return [← elementAttribute g]
  let isSelfClosing ← matchMark "/"
  if isSelfClosing then expectMark "/"
  expectMark ">"
  let found ← node "JSXOpeningElement" start [("name", name), ("attributes", .list attributes)]
  return if isSelfClosing then .selfClosing found else .opening found text

/-- A tag of either kind. -/
def anyTag (g : Reader) : P Tag := do
  let start ← markupStart
  expectMark "<"
  if ← matchMark "/" then
    expectMark "/"
    let (name, text) ← elementName
    expectMark ">"
    return .closing (← node "JSXClosingElement" start [("name", name)]) text
  else openingTag g start

/-- An expression among the children of an element. -/
def childExpression (g : Reader) : P Estree := do
  let start ← markupStart
  expectMark "\x7b"
  if ← matchMark "\x7d" then
    skipComments
    let last ← here
    modify fun s => { s with last }
    expectMark "\x7d"
    node "JSXExpressionContainer" start []
  else
    leaveMarkup
    let value ← bracedExpression g
    node "JSXExpressionContainer" start [("expression", value)]

/-- The texts and expressions up to the next tag. -/
def children (g : Reader) : P (List Estree) :=
  repeatStep ([] : List Estree) fun found => do
    if ← atEnd then return .inr found.reverse
    let start := (← get).index
    let found ←
      if ← skipMarkupText then do
        let text ← node "JSXText" start []
        pure (text :: found)
      else pure found
    if (← current) == '\x7b' then return .inl ((← childExpression g) :: found)
    else return .inr found.reverse

/-- An element that is open: its start, opening tag, name, and the children read so far, the latest
first. -/
structure OpenElement where
  start : Nat
  opening : Estree
  name : Text
  children : List Estree

/-- An element with its tags and children. -/
def elementNode (start : Nat) (opening : Estree) (children : List Estree) (closing : Estree) :
    P Estree :=
  node "JSXElement" start
    [("openingElement", opening), ("children", .list children), ("closingElement", closing)]

/-- The content of an open element up to its closing tag: its children and that tag. The elements
around it that are open as well are kept in a list, the nearest first. A script that ends right
behind an opening tag leaves the elements open. -/
def elementContent (g : Reader) (element : OpenElement) : P (List Estree × Estree) :=
  repeatStep (element, ([] : List OpenElement)) fun (element, around) => do
    if ← atEnd then return .inr (element.children.reverse, .null)
    let found ← children g
    let element := { element with children := found.reverse ++ element.children }
    let start := (← get).index
    match ← anyTag g with
    | .opening tag name => return .inl (⟨start, tag, name, []⟩, element :: around)
    | .selfClosing tag =>
        let child ← elementNode start tag [] .null
        return .inl ({ element with children := child :: element.children }, around)
    | .closing tag name =>
        if name != element.name then failHere (.closingTag element.name)
        match around with
        | [] => return .inr (element.children.reverse, tag)
        | parent :: around =>
            let child ← elementNode element.start element.opening element.children.reverse tag
            return .inl ({ parent with children := child :: parent.children }, around)

/-- An element, by the rules of markup. -/
def element (g : Reader) : P Estree := do
  let start ← markupStart
  expectMark "<"
  match ← openingTag g start with
  | .opening tag name =>
      let (found, closing) ← elementContent g ⟨start, tag, name, []⟩
      elementNode start tag found closing
  | .selfClosing tag | .closing tag _ => elementNode start tag [] .null

/-- An element among ordinary tokens. -/
def rootElement (g : Reader) : P Estree := do
  enterMarkup
  let found ← element g
  leaveMarkup
  return found

end StoryCatalog.Script.Strict
