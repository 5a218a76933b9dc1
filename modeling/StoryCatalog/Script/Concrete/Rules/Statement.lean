import StoryCatalog.Grammar.Rule

/-!
# Rules for statements

The line end that stands for a semicolon is a token of its own, written here as a line feed.
-/

namespace StoryCatalog.Script.Concrete

open Grammar Grammar.Rule

/-- What ends a statement: a semicolon, or a line end that stands for one. -/
def statementEnd : Rule := oneOf ["\n", ";"]

/-- The words that declare variables of the block around them and dispose of them at its end. -/
def usingWords : Rule := oneOf ["using", seq ["await", "using"]]

/-- A name or a pattern of names that are declared. -/
def declared : Rule := oneOf [.token "identifier", .part "destructuring"]

/-- Exports and imports. -/
def moduleRules : List Definition := [
  .node "export_statement" <| oneOf [
    seq ["export",
      oneOf [
        seq ["*", .part "source"],
        seq [.part "namespace_export", .part "source"],
        seq [.part "export_clause", .part "source"],
        .part "export_clause"],
      statementEnd],
    seq [many (.part "decorator"), "export",
      oneOf [
        .part "declaration",
        seq ["default",
          oneOf [.part "declaration", seq [.part "expression", statementEnd]]]]]],
  .node "namespace_export" <| seq ["*", "as", .part "moduleName"],
  .node "export_clause" <|
    seq ["\x7b", optional (commaList (.part "export_specifier")), optional ",", "\x7d"],
  .node "export_specifier" <|
    seq [.part "moduleName", optional (seq ["as", .part "moduleName"])],
  .hidden "moduleName" <| oneOf [.token "identifier", .part "string", "default"],
  .word "import",
  .node "import_statement" <| seq ["import",
    oneOf [seq [.part "import_clause", .part "source"], .part "string"],
    optional (.part "import_attribute"), statementEnd],
  .node "import_clause" <| oneOf [
    .part "namespace_import",
    .part "named_imports",
    seq [.token "identifier", optional (seq [",", parts ["namespace_import", "named_imports"]])]],
  .hidden "source" <| seq ["from", .part "string"],
  .node "namespace_import" <| seq ["*", "as", .token "identifier"],
  .node "named_imports" <|
    seq ["\x7b", optional (commaList (.part "import_specifier")), optional ",", "\x7d"],
  .node "import_specifier" <| oneOf [
    .token "identifier",
    seq [.part "moduleName", "as", .token "identifier"]],
  .node "import_attribute" <| seq ["with", .part "object"]]

/-- Declarations of variables. -/
def declarationRules : List Definition := [
  .hidden "declaration" <| parts ["function_declaration", "generator_function_declaration",
    "class_declaration", "lexical_declaration", "variable_declaration", "using_declaration"],
  .node "variable_declaration" <|
    seq ["var", commaList (.part "variable_declarator"), statementEnd],
  .node "lexical_declaration" <|
    seq [oneOf ["let", "const"], commaList (.part "variable_declarator"), statementEnd],
  .node "using_declaration" <|
    seq [usingWords, commaList (.part "variable_declarator"), statementEnd],
  .node "variable_declarator" <| seq [declared, optional (.part "initializer")],
  .hidden "initializer" <| seq ["=", .part "expression"]]

/-- Loops. -/
def loopRules : List Definition := [
  .node "for_statement" <| seq ["for", "(",
    oneOf [
      parts ["lexical_declaration", "variable_declaration"],
      seq [.part "expressions", ";"],
      .part "empty_statement"],
    oneOf [seq [.part "expressions", ";"], .part "empty_statement"],
    optional (.part "expressions"), ")", .part "statement"],
  .node "for_in_statement" <|
    seq ["for", optional "await", .part "loopHead", .part "statement"],
  .hidden "loopHead" <| seq ["(",
    oneOf [
      .part "assignable",
      .part "parenthesized_expression",
      seq ["var", declared, optional (.part "initializer")],
      seq [oneOf ["let", "const"], declared, optional "\n"],
      seq [usingWords, declared, optional "\n"]],
    oneOf ["in", "of"], .part "expressions", ")"],
  .node "while_statement" <|
    seq ["while", .part "parenthesized_expression", .part "statement"],
  .node "do_statement" <| rightward none <| seq ["do", .part "statement", "while",
    .part "parenthesized_expression", optional statementEnd]]

/-- Other statements. -/
def statementRules : List Definition := [
  .hidden "statement" <| parts ["export_statement", "import_statement", "debugger_statement",
    "expression_statement", "declaration", "statement_block", "if_statement", "switch_statement",
    "for_statement", "for_in_statement", "while_statement", "do_statement", "try_statement",
    "with_statement", "break_statement", "continue_statement", "return_statement",
    "throw_statement", "empty_statement", "labeled_statement"],
  .node "expression_statement" <| seq [.part "expressions", statementEnd],
  .node "statement_block" <| rightward none <|
    seq ["\x7b", many (.part "statement"), "\x7d", optional "\n"],
  .node "else_clause" <| seq ["else", .part "statement"],
  .node "if_statement" <| rightward none <| seq ["if", .part "parenthesized_expression",
    .part "statement", optional (.part "else_clause")],
  .node "switch_statement" <|
    seq ["switch", .part "parenthesized_expression", .part "switch_body"],
  .node "switch_body" <| seq ["\x7b", many (parts ["switch_case", "switch_default"]), "\x7d"],
  .node "switch_case" <| seq ["case", .part "expressions", ":", many (.part "statement")],
  .node "switch_default" <| seq ["default", ":", many (.part "statement")],
  .node "try_statement" <| seq ["try", .part "statement_block",
    optional (.part "catch_clause"), optional (.part "finally_clause")],
  .node "catch_clause" <|
    seq ["catch", optional (seq ["(", declared, ")"]), .part "statement_block"],
  .node "finally_clause" <| seq ["finally", .part "statement_block"],
  .node "with_statement" <|
    seq ["with", .part "parenthesized_expression", .part "statement"],
  .node "break_statement" <| seq ["break", optional (.part "label"), statementEnd],
  .node "continue_statement" <| seq ["continue", optional (.part "label"), statementEnd],
  .spliced "label" <| .called "statement_identifier" (.token "identifier"),
  .node "debugger_statement" <| seq ["debugger", statementEnd],
  .node "return_statement" <| seq ["return", optional (.part "expressions"), statementEnd],
  .node "throw_statement" <| seq ["throw", .part "expressions", statementEnd],
  .node "empty_statement" ";",
  .node "labeled_statement" <| seq [
    .called "statement_identifier" (oneOf [.token "identifier", .part "contextualWord"]),
    ":", .part "statement"]]

end StoryCatalog.Script.Concrete
