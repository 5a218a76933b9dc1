/-!
# Rules of a grammar

A grammar says of each part of a language what it is made of: marks and words, tokens such as names
and numbers, and other parts, one behind another, one instead of another, or any number of them.
A rule may have a grade, which settles how its parts group where they could group in several ways:
of two rules the one whose grade ranks higher comes first, and of two of equal rank the side
decides.
-/

namespace StoryCatalog.Grammar

/-- Which of two operators of one grade takes the operand between them. -/
inductive Side where
  | left
  | right
deriving DecidableEq, Repr

/-- What a part is made of. A mark leaves no node in the tree, a token one of its name. `called`
gives nodes another type, and `field` the name of the place that they fill. Where `anyWord` holds, a
name may be any word. -/
inductive Rule where
  | empty
  | mark (text : String)
  | token (name : String)
  | part (name : String)
  | sequence (first second : Rule)
  | either (first second : Rule)
  | oneOrMore (item : Rule)
  | graded (grade : Option String) (side : Option Side) (rule : Rule)
  | called (type : String) (rule : Rule)
  | field (name : String) (rule : Rule)
  | anyWord (rule : Rule)
deriving DecidableEq, Repr

/-- A text in a rule is a mark or word that stands there. -/
instance : Coe String Rule := ⟨.mark⟩

namespace Rule

/-- Rules one behind another. -/
def seq : List Rule → Rule
  | [] => .empty
  | [rule] => rule
  | rule :: rest => .sequence rule (seq rest)

/-- One of several rules. -/
def oneOf : List Rule → Rule
  | [] => .empty
  | [rule] => rule
  | rule :: rest => .either rule (oneOf rest)

/-- One of several parts. -/
def parts (names : List String) : Rule :=
  oneOf (names.map .part)

/-- One of several marks or words. -/
def marks (texts : List String) : Rule :=
  oneOf (texts.map .mark)

/-- A rule of a grade. -/
def grade (name : String) (rule : Rule) : Rule :=
  .graded name none rule

/-- A rule of a grade that groups to the left. -/
def leftward (name : Option String) (rule : Rule) : Rule :=
  .graded name (some .left) rule

/-- A rule of a grade that groups to the right. -/
def rightward (name : Option String) (rule : Rule) : Rule :=
  .graded name (some .right) rule

/-- A rule or nothing. -/
def optional (rule : Rule) : Rule :=
  .either rule .empty

/-- Any number of items. -/
def many (item : Rule) : Rule :=
  .either (.oneOrMore item) .empty

/-- One or more items with commas between them. -/
def commaList (item : Rule) : Rule :=
  .sequence item (many (.sequence "," item))

/-- The contents of the repetitions in a rule, inner ones first. -/
def repeated : Rule → List Rule
  | .empty | .mark _ | .token _ | .part _ => []
  | .sequence first second | .either first second => first.repeated ++ second.repeated
  | .oneOrMore item => item.repeated ++ [item]
  | .graded _ _ rule | .called _ rule | .field _ rule | .anyWord rule => rule.repeated

end Rule

/-- What becomes of a part in the tree: it is a node, its nodes stand for it, or it is replaced by
its rule beforehand. -/
inductive Visibility where
  | node
  | hidden
  | spliced
deriving DecidableEq, Repr

/-- A part of the language and its rule. -/
structure Definition where
  name : String
  visibility : Visibility
  body : Rule

namespace Definition

/-- A part whose nodes have its name as their type. -/
def node (name : String) (body : Rule) : Definition := ⟨name, .node, body⟩

/-- A part that its nodes stand for. -/
def hidden (name : String) (body : Rule) : Definition := ⟨name, .hidden, body⟩

/-- A part that is replaced by its rule. -/
def spliced (name : String) (body : Rule) : Definition := ⟨name, .spliced, body⟩

/-- A part that is a single word. -/
def word (text : String) : Definition := .node text (.mark text)

end Definition

/-- A place in a ranking: a grade, or all rules of a part. -/
inductive Rank where
  | grade (name : String)
  | part (name : String)
deriving DecidableEq, Repr

end Grammar

/-- A grammar: its parts, of which the first is the whole text, the rankings from high to low, and
the token that words are. -/
structure Grammar where
  definitions : List Grammar.Definition
  rankings : List (List Grammar.Rank)
  word : String

end StoryCatalog
