import StoryCatalog.Grammar.Automaton
import StoryCatalog.Syntax.Cst

/-!
# The graph of a reading

What has been read of a script is kept in a graph. Its nodes are states that the reading came to;
a link leads back from a node to the one before it and holds what was read between the two. A path
of links is one way to read the script up to a place. Where two ways come to the same state at the
same place, they share a node, so that what follows is read once for both.
-/

namespace StoryCatalog.Script.Concrete

open Grammar

/-- A script: its characters and the byte offset of each of them. -/
structure IndexedText where
  source : Array Char
  offsets : Array Nat

/-- The byte offsets of the characters of a script, and of its end. -/
def byteOffsets (source : Array Char) : Array Nat :=
  (source.foldl (fun (offsets, offset) c =>
    (offsets.push offset, offset + c.utf8Size)) (#[], 0)) |> fun (offsets, offset) =>
      offsets.push offset

namespace IndexedText

/-- The script with a text. -/
def ofString (text : String) : IndexedText :=
  let source := text.toList.toArray
  ⟨source, byteOffsets source⟩

/-- The byte offset of a character. -/
def offset (script : IndexedText) (index : Nat) : Nat :=
  script.offsets.getD index 0

/-- A node over a range of characters. -/
def node (script : IndexedText) (type : String) (field : Option String) (start stop : Nat)
    (children : List Cst) : Cst :=
  Cst.make type (script.offset start) (script.offset stop) true false field none children

end IndexedText

/-! ## What was read -/

/-- What was read for a symbol: the range of its characters, the type of its node, if it makes one,
and the nodes within it. -/
structure Piece where
  type : Option String
  start : Nat
  stop : Nat
  nodes : List Cst

/-- The nodes of a piece at a step of a production. A piece without a node of its own has its nodes
stand for it. -/
def Piece.nodesAt (script : IndexedText) (piece : Piece) (step : Step Symbol) : List Cst :=
  match step.type.or piece.type with
  | some type => [script.node type step.field piece.start piece.stop piece.nodes]
  | none =>
      match step.field with
      | none => piece.nodes
      | some name => piece.nodes.map fun node => { node with field := some name }

/-- What was read between a state and the node before it. -/
structure Link where
  piece : Piece
  below : Nat

/-- A state that a reading came to, the comments behind what was read up to there, and the ways
back. -/
structure Junction where
  state : Nat
  comments : List Cst
  links : List Link

/-- Something that was read and the comments behind it. -/
structure Passage where
  piece : Piece
  comments : List Cst

/-- The nodes of a graph by their numbers. -/
abbrev Graph := Array Junction

namespace Graph

/-- A graph with the state before the first token alone. -/
def start : Graph := #[⟨0, [], []⟩]

/-- The node with a number. -/
def junction (graph : Graph) (number : Nat) : Junction :=
  graph.getD number ⟨0, [], []⟩

/-- The ways back from a node over a number of links: what was read on each of them, in the order of
the script, and the node that it comes to. -/
def waysBack (graph : Graph) : Nat → Nat → List Passage → List (List Passage × Nat)
  | 0, number, passed => [(passed, number)]
  | count + 1, number, passed =>
      let junction := graph.junction number
      junction.links.flatMap fun link =>
        waysBack graph count link.below (⟨link.piece, junction.comments⟩ :: passed)

/-- A node gets a comment behind all that was read before. -/
def addComment (graph : Graph) (number : Nat) (comment : Cst) : Graph :=
  graph.modify number fun junction => { junction with comments := junction.comments ++ [comment] }

/-- A node gets one more way back, unless it has one to the same node. -/
def addLink (graph : Graph) (number : Nat) (link : Link) : Graph :=
  graph.modify number fun junction =>
    if junction.links.any fun known => known.below == link.below then junction
    else { junction with links := junction.links ++ [link] }

end Graph

/-- The nodes of what was read for the steps of a production, with the comments between them. Those
behind the last step are not among them. -/
def childrenOf (script : IndexedText) : List (Step Symbol) → List Passage → List Cst
  | step :: steps, passage :: passages =>
      let nodes := passage.piece.nodesAt script step
      if passages.isEmpty then nodes
      else nodes ++ passage.comments ++ childrenOf script steps passages
  | _, _ => []

/-- The part that a production makes of what was read for its steps. -/
def Piece.ofPassages (script : IndexedText) (table : Table) (production : Production)
    (passages : List Passage) : Piece :=
  let type := (table.parts[production.part]?).bind Nonterminal.type
  let start := (passages.head?.map fun passage => passage.piece.start).getD 0
  let stop := (passages.getLast?.map fun passage => passage.piece.stop).getD 0
  ⟨type, start, stop, childrenOf script production.steps.toList passages⟩

end StoryCatalog.Script.Concrete
