import StoryCatalog.Grammar.Rule

/-!
# Rules for markup

Elements with attributes and children. The parts of a name with hyphens are letters, digits, `_` and
`$` of ASCII.
-/

namespace StoryCatalog.Script.Concrete

open Grammar Grammar.Rule

/-- A quoted text in markup. -/
def quotedText (quote token : String) : Rule :=
  seq [quote,
    many (oneOf [.called "string_fragment" (.token token), .token "html_character_reference"]),
    quote]

/-- Markup. -/
def markupRules : List Definition := [
  .spliced "element" <| parts ["jsx_element", "jsx_self_closing_element"],
  .node "jsx_element" <| seq [.part "jsx_opening_element",
    many (oneOf [
      .token "jsx_text",
      .token "html_character_reference",
      parts ["element", "jsx_expression"]]),
    .part "jsx_closing_element"],
  .node "jsx_opening_element" <| seq ["<",
    optional (seq [.part "elementName", many (.part "attribute")]), ">"],
  .node "jsx_closing_element" <| seq ["</", optional (.part "elementName"), ">"],
  .node "jsx_self_closing_element" <|
    seq ["<", .part "elementName", many (.part "attribute"), "/>"],
  .node "jsx_expression" <| seq ["\x7b",
    optional (parts ["expression", "sequence_expression", "spread_element"]), "\x7d"],
  .spliced "markupName" <|
    oneOf [.called "identifier" (.token "hyphenated"), .token "identifier"],
  .hidden "nestedName" <| grade "access" <| seq [
    .field "object"
      (oneOf [.token "identifier", .called "member_expression" (.part "nestedName")]),
    ".",
    .field "property" (.called "property_identifier" (.token "identifier"))],
  .node "jsx_namespace_name" <| seq [.part "markupName", ":", .part "markupName"],
  .spliced "elementName" <| oneOf [
    .part "markupName",
    .called "member_expression" (.part "nestedName"),
    .part "jsx_namespace_name"],
  .spliced "attribute" <| parts ["jsx_attribute", "jsx_expression"],
  .node "jsx_attribute" <| seq [
    oneOf [.called "property_identifier" (.part "markupName"), .part "jsx_namespace_name"],
    optional (seq ["=", oneOf [
      .called "string" (.part "attributeText"),
      parts ["jsx_expression", "element"]]])],
  .hidden "attributeText" <|
    oneOf [quotedText "\"" "double_quoted_attribute", quotedText "'" "single_quoted_attribute"]]

end StoryCatalog.Script.Concrete
