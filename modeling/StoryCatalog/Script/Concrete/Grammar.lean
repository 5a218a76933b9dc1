import StoryCatalog.Grammar.Automaton
import StoryCatalog.Script.Concrete.Rules.Expression
import StoryCatalog.Script.Concrete.Rules.Function
import StoryCatalog.Script.Concrete.Rules.Markup
import StoryCatalog.Script.Concrete.Rules.Statement

/-!
# The grammar of scripts

All rules together, and the rankings of their grades.
-/

namespace StoryCatalog.Script.Concrete

open Grammar

/-- The rankings of the rules of scripts, each from high to low. -/
def rankings : List (List Rank) := [
  [.grade "access", .grade "template", .grade "call", .part "update_expression", .grade "unary",
    .grade "power", .grade "product", .grade "sum", .grade "shift", .grade "relation",
    .grade "equality", .grade "common bits", .grade "different bits", .grade "all bits",
    .grade "and", .grade "or", .grade "conditional", .part "sequence_expression",
    .part "arrow_function"],
  [.grade "assignment", .part "primary_expression"],
  [.grade "access", .grade "template", .grade "new", .grade "call", .part "expression"],
  [.grade "declaration", .grade "literal"],
  [.part "primary_expression", .part "statement_block", .grade "object"],
  [.part "meta_property", .part "import"],
  [.part "import_statement", .part "import"],
  [.part "export_statement", .part "primary_expression"],
  [.part "lexical_declaration", .part "primary_expression"]]

/-- A whole script: a first line may say how to run it, and statements follow. -/
def programRule : Definition :=
  .node "program" <| .seq [.optional (.token "hash_bang_line"), .many (.part "statement")]

/-- The grammar of scripts. -/
def grammar : Grammar where
  definitions := programRule :: moduleRules ++ declarationRules ++ statementRules ++ loopRules
    ++ expressionRules ++ assignmentRules ++ accessRules ++ literalRules ++ functionRules
    ++ classRules ++ markupRules
  rankings
  word := "identifier"

/-- The table of the grammar. -/
def table : Table := Table.ofGrammar grammar

end StoryCatalog.Script.Concrete
