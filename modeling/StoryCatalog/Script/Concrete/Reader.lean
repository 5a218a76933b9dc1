import StoryCatalog.Script.Concrete.Graph
import StoryCatalog.Script.Concrete.Token

/-!
# Readings of a script

Where the grammar leaves several ways open, a script is read in each of them. `readings` takes them
forward together: it is always the reading farthest back that goes on, and readings that come to the
same state at the same place become one. The first reading that comes to the end gives the tree.
-/

namespace StoryCatalog.Script.Concrete

open Grammar

/-- A reading that waits at a place, at a node of the graph. -/
structure Version where
  index : Nat
  number : Nat

/-- The states that were made and the graph of what was read. -/
structure Session where
  automaton : Automaton
  graph : Graph

namespace Session

/-- Nothing has been read. -/
def start : Session := ⟨.start table, .start⟩

/-- The number of the state of a node. -/
def stateNumber (session : Session) (number : Nat) : Nat :=
  (session.graph.junction number).state

/-- The state of a node. -/
def state (session : Session) (number : Nat) : State :=
  session.automaton.state (session.stateNumber number)

/-- The number of the state behind a symbol. -/
def move (state : Nat) (symbol : Symbol) : StateM Session Nat :=
  modifyGet fun ⟨automaton, graph⟩ =>
    let (next, automaton) := automaton.move table state symbol
    (next, ⟨automaton, graph⟩)

/-- Change the graph. -/
def change (f : Graph → Graph) : StateM Session Unit :=
  modify fun ⟨automaton, graph⟩ => ⟨automaton, f graph⟩

/-- Add a node to the graph and give its number. -/
def add (junction : Junction) : StateM Session Nat :=
  modifyGet fun ⟨automaton, graph⟩ => (graph.size, ⟨automaton, graph.push junction⟩)

end Session

/-- Put a reading among others, which are in the order of their places. It comes behind those of its
own place. -/
def Version.insert (version : Version) : List Version → List Version
  | [] => [version]
  | other :: rest =>
      if version.index < other.index then version :: other :: rest
      else other :: insert version rest

/-! ## Steps of a reading -/

/-- A token leads to a state. -/
structure Arrival where
  state : Nat
  link : Link

/-- What a token leads to: the tree of the whole script, and the states behind the token. The parts
that were made on the way are kept by their states and the nodes before them, since a part that is
made twice at the same place needs no second look. -/
structure Advance where
  tree : Option Cst
  arrivals : List Arrival
  made : List (Nat × Nat)

/-- The tree of a script: what was read before its end, with the comments around it. -/
def wholeTree (script : IndexedText) (passages : List Passage) : Cst :=
  script.node "program" none 0 script.source.size <|
    passages.flatMap fun passage => passage.piece.nodes ++ passage.comments

/-- The tree of a script whose end was come to at a node. -/
def wholeTreeAt (script : IndexedText) (graph : Graph) (number : Nat) : Option Cst :=
  let opening : Passage := ⟨⟨none, 0, 0, []⟩, (graph.junction 0).comments⟩
  (graph.waysBack 1 number []).head?.map fun (passages, _) => wholeTree script (opening :: passages)

/-- The token of a lexeme in a state, where a word of the grammar that cannot come next may still be
a name. -/
def tokenIn (state : State) : LexemeKind → Nat
  | .comment _ => 0
  | .token number => number
  | .word number isReserved =>
      if !state.tokens.contains number && !(isReserved && state.words == .reserved) then table.word
      else number

/-- Go on with a token from a node: behind the token, and in the same way once the complete
productions have been replaced by their parts. -/
def advance (script : IndexedText) (lexeme : Lexeme) : Nat → Nat → Advance → StateM Session Advance
  | 0, _, found => return found
  | rounds + 1, number, found => do
      let state := (← get).state number
      let token := tokenIn state lexeme.kind
      let choices := table.choices state token
      let found ←
        if choices.goesOn then do
          let terminal := table.terminals.getD token ⟨"", false⟩
          let type := if terminal.isNode then some terminal.name else none
          let next ← Session.move ((← get).stateNumber number) (.token token)
          let link : Link := ⟨⟨type, lexeme.start, lexeme.stop, []⟩, number⟩
          pure { found with arrivals := found.arrivals ++ [⟨next, link⟩] }
        else pure found
      choices.productions.foldlM (fun found index => do
        let graph := (← get).graph
        if index = 0 then
          return { found with tree := found.tree.or (wholeTreeAt script graph number) }
        else
          let production := table.productions.getD index ⟨0, #[]⟩
          let comments := (graph.junction number).comments
          (graph.waysBack production.steps.size number []).foldlM (fun found (passages, below) => do
            let next ← Session.move ((← get).stateNumber below) (.part production.part)
            if found.made.contains (next, below) then return found
            else
              let piece := Piece.ofPassages script table production passages
              let made ← Session.add ⟨next, comments, [⟨piece, below⟩]⟩
              let found := { found with made := (next, below) :: found.made }
              advance script lexeme rounds made found) found) found

/-- A reading arrives at a place: at the node of one that waits there in the same state, or at a new
node. -/
def arrive (index : Nat) (versions : List Version) (arrival : Arrival) :
    StateM Session (List Version) := do
  let session ← get
  match versions.find? fun version =>
      version.index == index && session.stateNumber version.number == arrival.state with
  | some version =>
      Session.change fun graph => graph.addLink version.number arrival.link
      return versions
  | none =>
      let number ← Session.add ⟨arrival.state, [], [arrival.link]⟩
      return Version.insert ⟨index, number⟩ versions

/-- Take readings forward until one comes to the end of the script, which may have comments alone.
When all readings stop, the place that is farthest is given. -/
def readings (script : IndexedText) : Nat → Nat → List Version → StateM Session (Except Nat Cst)
  | 0, farthest, _ => return .error farthest
  | _ + 1, farthest, [] => return .error farthest
  | rounds + 1, farthest, version :: rest => do
      let farthest := max farthest version.index
      match scan ((← get).state version.number) script.source version.index with
      | none => readings script rounds farthest rest
      | some ⟨.comment type, start, stop⟩ =>
          Session.change fun graph =>
            graph.addComment version.number (script.node type none start stop [])
          readings script rounds farthest (Version.insert ⟨stop, version.number⟩ rest)
      | some lexeme =>
          if lexeme.kind == .token 0 && version.number == 0 then
            let comments := ((← get).graph.junction 0).comments
            return .ok (wholeTree script [⟨⟨none, 0, 0, []⟩, comments⟩])
          else
            let bound := 64 * ((← get).graph.size + 1)
            let found ← advance script lexeme bound version.number ⟨none, [], []⟩
            match found.tree with
            | some tree => return .ok tree
            | none =>
                let versions ← found.arrivals.foldlM (arrive lexeme.stop) rest
                readings script rounds farthest versions

end StoryCatalog.Script.Concrete
