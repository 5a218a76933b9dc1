import StoryCatalog.Grammar.Rule

/-!
# Rules for functions and classes
-/

namespace StoryCatalog.Script.Concrete

open Grammar Grammar.Rule

/-- Parameters and body of a function. -/
def signature : Rule := seq [.part "formal_parameters", .part "statement_block"]

/-- A function that is an expression and need not have a name. -/
def functionLiteral (star : Rule) : Rule :=
  grade "literal" <|
    seq [optional "async", "function", star, optional (.token "identifier"), signature]

/-- A function that is declared by its name. -/
def functionDeclaration (star : Rule) : Rule :=
  rightward "declaration" <|
    seq [optional "async", "function", star, .token "identifier", signature, optional "\n"]

/-- What marks a member of a class as one of the class itself. -/
def staticMark : Rule := optional (oneOf ["static", "static get"])

/-- Functions. -/
def functionRules : List Definition := [
  .node "function_expression" (functionLiteral .empty),
  .node "generator_function" (functionLiteral "*"),
  .node "function_declaration" (functionDeclaration .empty),
  .node "generator_function_declaration" (functionDeclaration "*"),
  .node "arrow_function" <| seq [optional "async",
    oneOf [
      .called "identifier" (.part "contextualWord"),
      .token "identifier",
      .part "formal_parameters"],
    "=>", parts ["expression", "statement_block"]],
  .node "formal_parameters" <| seq ["(",
    optional (seq [commaList (parts ["pattern", "assignment_pattern"]), optional ","]), ")"],
  .node "method_definition" <| seq [many (.part "decorator"), staticMark, optional "async",
    optional (oneOf ["get", "set", "*"]), .part "propertyName", signature]]

/-- Classes. -/
def classRules : List Definition := [
  .node "class" <| grade "literal" <| seq [many (.part "decorator"), "class",
    optional (.token "identifier"), optional (.part "class_heritage"), .part "class_body"],
  .node "class_declaration" <| grade "declaration" <| seq [many (.part "decorator"), "class",
    .token "identifier", optional (.part "class_heritage"), .part "class_body", optional "\n"],
  .node "class_heritage" <| seq ["extends", .part "expression"],
  .node "class_body" <| seq ["\x7b",
    many (oneOf [
      seq [.part "method_definition", optional ";"],
      seq [.part "field_definition", oneOf ["\n", ";"]],
      .part "class_static_block",
      ";"]),
    "\x7d"],
  .node "field_definition" <| seq [many (.part "decorator"), staticMark, .part "propertyName",
    optional (.part "initializer")],
  .node "class_static_block" <| seq ["static", .part "statement_block"],
  .node "decorator" <| seq ["@", oneOf [
    .token "identifier",
    .called "member_expression" (.part "decoratorMember"),
    .called "call_expression" (.part "decoratorCall")]],
  .hidden "decoratorMember" <| grade "access" <| seq [
    .field "object" (.part "decoratorTarget"), ".",
    .field "property" (.called "property_identifier" (.token "identifier"))],
  .hidden "decoratorCall" <| grade "call" <| seq [
    .field "function" (.part "decoratorTarget"), .field "arguments" (.part "arguments")],
  .spliced "decoratorTarget" <| oneOf [
    .token "identifier",
    .called "member_expression" (.part "decoratorMember")]]

end StoryCatalog.Script.Concrete
