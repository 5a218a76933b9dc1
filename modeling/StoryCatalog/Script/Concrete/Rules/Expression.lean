import StoryCatalog.Grammar.Rule

/-!
# Rules for expressions

The operators between two operands are listed with their grades.
-/

namespace StoryCatalog.Script.Concrete

open Grammar Grammar.Rule

/-- The operators between two operands, with the grade of each. -/
def binaryOperators : List (String × String) := [
  ("&&", "and"), ("||", "or"), (">>", "shift"), (">>>", "shift"), ("<<", "shift"),
  ("&", "common bits"), ("^", "different bits"), ("|", "all bits"), ("+", "sum"), ("-", "sum"),
  ("*", "product"), ("/", "product"), ("%", "product"), ("<", "relation"), ("<=", "relation"),
  ("==", "equality"), ("===", "equality"), ("!=", "equality"), ("!==", "equality"),
  (">=", "relation"), (">", "relation"), ("??", "conditional"), ("instanceof", "relation")]

/-- Two operands with an operator between them. -/
def binaryRule : Rule :=
  let between (operator : Rule) : Rule := seq [.part "expression", operator, .part "expression"]
  oneOf <|
    binaryOperators.map (fun (operator, name) => leftward name (between operator))
      ++ [rightward "power" (between "**"),
        leftward "relation" <| seq [
          oneOf [.part "expression", .token "private_property_identifier"],
          "in", .part "expression"]]

/-- The items of an array or of the arguments of a call. Places may be left empty. -/
def items : Rule :=
  optional (commaList (optional (parts ["expression", "spread_element"])))

/-- Expressions. -/
def expressionRules : List Definition := [
  .node "parenthesized_expression" <| seq ["(", .part "expressions", ")"],
  .spliced "expressions" <| parts ["expression", "sequence_expression"],
  .hidden "expression" <| parts ["primary_expression", "element", "assignment_expression",
    "augmented_assignment_expression", "await_expression", "unary_expression",
    "binary_expression", "ternary_expression", "update_expression", "new_expression",
    "yield_expression"],
  .hidden "primary_expression" <| oneOf [
    parts ["subscript_expression", "member_expression", "parenthesized_expression", "variable"],
    .called "identifier" (.part "contextualWord"),
    parts ["this", "super"],
    .token "number",
    parts ["string", "template_string", "regex", "true", "false", "null", "object", "array",
      "function_expression", "arrow_function", "generator_function", "class", "meta_property",
      "call_expression"]],
  .spliced "variable" <| oneOf [.part "undefined", .token "identifier"],
  .spliced "contextualWord" <| marks ["get", "set", "async", "static", "export", "let", "await"],
  .word "this", .word "super", .word "true", .word "false", .word "null", .word "undefined",
  .node "yield_expression" <| rightward none <| seq ["yield",
    oneOf [seq ["*", .part "expression"], optional (.part "expression")]],
  .node "await_expression" <| grade "unary" <| seq ["await", .part "expression"],
  .node "unary_expression" <| leftward "unary" <|
    seq [marks ["!", "~", "-", "+", "typeof", "void", "delete"], .part "expression"],
  .node "binary_expression" binaryRule,
  .node "ternary_expression" <| rightward "conditional" <|
    seq [.part "expression", "?", .part "expression", ":", .part "expression"],
  .node "update_expression" <| leftward none <| oneOf [
    seq [.part "expression", oneOf ["++", "--"]],
    seq [oneOf ["++", "--"], .part "expression"]],
  .node "sequence_expression" <| rightward none <| commaList (.part "expression")]

/-- Assignments and the patterns that are assigned to. -/
def assignmentRules : List Definition := [
  .node "assignment_expression" <| rightward "assignment" <|
    seq [parts ["parenthesized_expression", "assignable"], "=", .part "expression"],
  .node "augmented_assignment_expression" <| rightward "assignment" <|
    seq [.part "updatable",
      marks ["+=", "-=", "*=", "/=", "%=", "^=", "&=", "|=", ">>=", ">>>=", "<<=", "**=", "&&=",
        "||=", "??="],
      .part "expression"],
  .spliced "assignable" <| oneOf [
    parts ["member_expression", "subscript_expression", "variable"],
    .called "identifier" (.part "contextualWord"),
    .part "destructuring"],
  .hidden "updatable" <| oneOf [
    parts ["member_expression", "subscript_expression"],
    .called "identifier" (.part "contextualWord"),
    .token "identifier",
    .part "parenthesized_expression"],
  .hidden "destructuring" <| parts ["object_pattern", "array_pattern"],
  .hidden "pattern" <| parts ["assignable", "rest_pattern"],
  .node "rest_pattern" <| rightward none <| seq ["...", .part "assignable"],
  .node "assignment_pattern" <| seq [.part "pattern", "=", .part "expression"],
  .node "array_pattern" <| seq ["[",
    optional (commaList (optional (parts ["pattern", "assignment_pattern"]))), "]"],
  .node "object_pattern" <| grade "object" <| seq ["\x7b",
    optional (commaList (optional (oneOf [
      parts ["pair_pattern", "rest_pattern", "object_assignment_pattern"],
      .called "shorthand_property_identifier_pattern"
        (oneOf [.token "identifier", .part "contextualWord"])]))),
    "\x7d"],
  .node "pair_pattern" <|
    seq [.part "propertyName", ":", parts ["pattern", "assignment_pattern"]],
  .node "object_assignment_pattern" <| seq [
    oneOf [
      .called "shorthand_property_identifier_pattern"
        (oneOf [.part "contextualWord", .token "identifier"]),
      .part "destructuring"],
    "=", .part "expression"]]

/-- Accesses and calls. -/
def accessRules : List Definition := [
  .node "call_expression" <| oneOf [
    grade "call" <| seq [.field "function" (parts ["expression", "import"]),
      .field "arguments" (.part "arguments")],
    grade "template" <| seq [.field "function" (parts ["primary_expression", "new_expression"]),
      .field "arguments" (.part "template_string")],
    grade "access" <| seq [.field "function" (.part "primary_expression"), .part "optional_chain",
      .field "arguments" (.part "arguments")]],
  .node "arguments" <| seq ["(", items, ")"],
  .node "spread_element" <| seq ["...", .part "expression"],
  .node "new_expression" <| rightward "new" <| seq ["new",
    parts ["primary_expression", "new_expression"], optional (.part "arguments")],
  .node "member_expression" <| grade "access" <| seq [
    .field "object" (parts ["expression", "primary_expression", "import"]),
    oneOf [".", .part "optional_chain"],
    .field "property" (oneOf [
      .token "private_property_identifier",
      .anyWord (.called "property_identifier" (.token "identifier"))])],
  .node "subscript_expression" <| rightward "access" <| seq [
    parts ["expression", "primary_expression"], optional (.part "optional_chain"), "[",
    .part "expressions", "]"],
  .node "optional_chain" "?.",
  .node "meta_property" <| oneOf [seq ["new", ".", "target"], seq ["import", ".", "meta"]]]

/-- Literals. -/
def literalRules : List Definition := [
  .node "object" <| grade "object" <| seq ["\x7b",
    optional (commaList (optional (oneOf [
      parts ["pair", "spread_element", "method_definition"],
      .called "shorthand_property_identifier"
        (oneOf [.token "identifier", .part "contextualWord"])]))),
    "\x7d"],
  .node "pair" <| seq [.part "propertyName", ":", .part "expression"],
  .hidden "propertyName" <| .anyWord <| oneOf [
    .called "property_identifier" (oneOf [.token "identifier", .part "contextualWord"]),
    .token "private_property_identifier",
    .part "string",
    .token "number",
    .part "computed_property_name"],
  .node "computed_property_name" <| seq ["[", .part "expression", "]"],
  .node "array" <| seq ["[", items, "]"],
  .node "string" <| oneOf [
    seq ["\"",
      many (oneOf [.called "string_fragment" (.token "double_quoted"), .token "escape_sequence"]),
      "\""],
    seq ["'",
      many (oneOf [.called "string_fragment" (.token "single_quoted"), .token "escape_sequence"]),
      "'"]],
  .node "template_string" <| seq ["\x60",
    many (oneOf [
      .called "string_fragment" (.token "template_text"),
      .token "escape_sequence",
      .part "template_substitution"]),
    "\x60"],
  .node "template_substitution" <| seq ["$\x7b", .part "expressions", "\x7d"],
  .node "regex" <|
    seq ["/", .token "regex_pattern", optional (.token "regex_flags")]]

end StoryCatalog.Script.Concrete
