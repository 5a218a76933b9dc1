import StoryCatalog.Grammar.Table

/-!
# The automaton of a grammar

A reading is a stack of states. A state is a set of items, each one a production read up to some
step together with what may follow the part that it makes. From a state and a token follows what to
do: go on to the state behind the token, or put a part in the place of the steps of a production.
Where both are possible, or several productions are, the grades of the rules decide; where they do
not, all ways are open.

States are made when a reading comes to them, and kept with their numbers.
-/

namespace StoryCatalog.Grammar

/-- A production read up to a step. -/
structure Item where
  production : Nat
  step : Nat
  follow : Follow
deriving DecidableEq, Hashable, Repr

/-- A state: its items behind the first step of their productions, what may follow the parts that
may start here, the tokens that go on, all tokens that may come next, and what holds of words. -/
structure State where
  items : List Item
  starts : Array (Option Follow)
  steps : TokenSet
  tokens : TokenSet
  words : Words

namespace Table

/-- The production of an item. -/
def production (table : Table) (item : Item) : Production :=
  table.productions.getD item.production ⟨0, #[]⟩

/-- The step that comes next in an item. -/
def next? (table : Table) (item : Item) : Option (Step Symbol) :=
  (table.production item).steps[item.step]?

/-- What may come next in an item. -/
def expected (table : Table) (item : Item) : Follow :=
  match table.next? item with
  | some step => step.first table.word table.firsts
  | none => item.follow

/-- The parts that may start in a state with these items, with what may follow them. -/
def starts (table : Table) (items : List Item) : Array (Option Follow) :=
  items.foldl (fun known item =>
    match (table.next? item).map Step.symbol with
    | some (.part part) =>
        let follow := table.expected { item with step := item.step + 1 }
        (table.beginnings.getD part []).foldl (fun known beginning =>
          known.modify beginning.part fun before =>
            let follow :=
              if beginning.isOpen then beginning.follow.union follow else beginning.follow
            some ((before.getD .empty).union follow)) known
    | _ => known) (Array.replicate table.parts.size none)

/-- The state with these items. -/
def state (table : Table) (items : List Item) : State :=
  let expected := items.map fun item => (item, table.expected item)
  let all : Follow := expected.foldl (fun (follow : Follow) (_, more) => follow.union more) .empty
  let steps := expected.foldl (fun (tokens : TokenSet) (item, more) =>
    if (table.next? item).isSome then tokens.union more.tokens else tokens) TokenSet.empty
  let words := expected.foldl (fun (words : Words) (_, more) =>
    if more.tokens.contains table.word then words.union more.words else words) Words.none
  ⟨items, table.starts items, steps, all.tokens, words⟩

/-- The items of a state behind a symbol. -/
def behind (table : Table) (state : State) (symbol : Symbol) : List Item :=
  let old := state.items.filterMap fun item =>
    if (table.next? item).any fun step => step.symbol == symbol then
      some { item with step := item.step + 1 }
    else none
  let fresh := (match symbol with
    | .token number => table.byToken.getD number []
    | .part number => table.byPart.getD number []).filterMap fun index => do
      let part := (table.productions.getD index ⟨0, #[]⟩).part
      let follow ← state.starts.getD part none
      return ⟨index, 1, follow⟩
  (old ++ fresh).mergeSort fun a b =>
    a.production < b.production || (a.production == b.production && a.step ≤ b.step)

end Table

/-! ## Which way to go -/

/-- The standing of a rule: its grade and the parts that it makes. -/
structure Standing where
  grade : Option String
  parts : List String

/-- The place in a ranking is that of a rule. -/
def Rank.covers (rank : Rank) (standing : Standing) : Bool :=
  match rank with
  | .grade name => standing.grade == some name
  | .part name => standing.parts.contains name

/-- How two rules compare in one ranking, if both have a place in it. The flags say whether the
places of the first and of the second have been passed. -/
def compareIn (a b : Standing) : Bool → Bool → List Rank → Option Ordering
  | _, _, [] => none
  | passedA, passedB, rank :: rest =>
      if rank.covers a then
        if passedB then some .lt else compareIn a b true passedB rest
      else if rank.covers b then
        if passedA then some .gt else compareIn a b passedA true rest
      else compareIn a b passedA passedB rest

/-- How two rules compare in the first ranking that has a place for both. -/
def Standing.compare (rankings : List (List Rank)) (a b : Standing) : Ordering :=
  (rankings.findSome? (compareIn a b false false)).getD .eq

/-- Productions that are complete before a token, all of one rank, and their sides. -/
structure Reductions where
  productions : List Nat
  standing : Standing
  sides : List (Option Side)

/-- What to do at a token: complete productions, and go on behind the token. -/
structure Choices where
  productions : List Nat
  goesOn : Bool
deriving DecidableEq, Repr

namespace Table

/-- The step before the place of an item. -/
def latest? (table : Table) (item : Item) : Option (Step Symbol) :=
  if item.step = 0 then none else (table.production item).steps[item.step - 1]?

/-- The name of the part that an item makes. -/
def partName (table : Table) (item : Item) : String :=
  (table.parts.getD (table.production item).part ⟨"", none, false⟩).name

/-- The standing of an item. -/
def standing (table : Table) (item : Item) : Standing :=
  ⟨(table.latest? item).bind Step.grade, [table.partName item]⟩

/-- The productions that are complete in a state before a token. Only those of the highest rank are
kept. -/
def reductions? (table : Table) (state : State) (token : Nat) : Option Reductions :=
  state.items.foldl (fun found item =>
    if (table.next? item).isSome || !item.follow.tokens.contains token then found
    else
      let standing := table.standing item
      let side := (table.latest? item).bind Step.side
      let alone : Reductions := ⟨[item.production], standing, [side]⟩
      match found with
      | none => some alone
      | some before =>
          match standing.compare table.rankings before.standing with
          | .gt => some alone
          | .lt => some before
          | .eq =>
              some ⟨before.productions ++ alone.productions,
                ⟨before.standing.grade, before.standing.parts ++ standing.parts⟩,
                before.sides ++ alone.sides⟩) none

/-- Both a step and reductions are possible at a token. Inside a repetition what was read comes
first; otherwise the ranks of the rules decide, and between equal ranks the sides of the
reductions. -/
def settle (table : Table) (state : State) (token : Nat) (reductions : Reductions) : Choices :=
  let going := state.items.filter fun item =>
    (table.next? item).isSome && item.step > 0 && (table.expected item).tokens.contains token
  let complete := state.items.filter fun item =>
    (table.next? item).isNone && item.follow.tokens.contains token
  let parts := (going ++ complete).map fun item => (table.production item).part
  let isRepetition (part : Nat) := (table.parts.getD part ⟨"", none, false⟩).isRepetition
  if parts.all fun part => isRepetition part && parts.head? == some part then
    ⟨reductions.productions, false⟩
  else
    let orders := going.map fun item =>
      (table.standing item).compare table.rankings reductions.standing
    let isMore := orders.contains .gt
    let isLess := orders.contains .lt
    if isMore && !isLess then ⟨[], true⟩
    else if isLess && !isMore then ⟨reductions.productions, false⟩
    else if isMore then ⟨reductions.productions, true⟩
    else if reductions.sides.all (· == some .left) then ⟨reductions.productions, false⟩
    else if reductions.sides.all (· == some .right) then ⟨[], true⟩
    else ⟨reductions.productions, true⟩

/-- What to do in a state at a token. -/
def choices (table : Table) (state : State) (token : Nat) : Choices :=
  let goesOn := state.steps.contains token
  match table.reductions? state token with
  | none => ⟨[], goesOn⟩
  | some reductions =>
      if goesOn then table.settle state token reductions else ⟨reductions.productions, false⟩

end Table

/-! ## Numbered states -/

/-- The states that a reading has come to, and the ways between them. -/
structure Automaton where
  states : Array State
  numbers : Std.HashMap (List Item) Nat
  moves : Std.HashMap (Nat × Symbol) Nat

/-- The whole text is to be read, up to its end. -/
def startItem : Item := ⟨0, 0, ⟨.single 0, .none⟩⟩

namespace Automaton

/-- The state before the first token alone. -/
def start (table : Table) : Automaton :=
  ⟨#[table.state [startItem]], Std.HashMap.ofList [([startItem], 0)], {}⟩

/-- The state with a number. -/
def state (automaton : Automaton) (number : Nat) : State :=
  automaton.states.getD number ⟨[], #[], .empty, .empty, .none⟩

/-- The number of the state with these items, made if it is new. -/
def numberOf (automaton : Automaton) (table : Table) (items : List Item) : Nat × Automaton :=
  match automaton.numbers[items]? with
  | some number => (number, automaton)
  | none =>
      let number := automaton.states.size
      (number,
        { automaton with
          states := automaton.states.push (table.state items)
          numbers := automaton.numbers.insert items number })

/-- The state behind a symbol. -/
def move (automaton : Automaton) (table : Table) (number : Nat) (symbol : Symbol) :
    Nat × Automaton :=
  match automaton.moves[(number, symbol)]? with
  | some next => (next, automaton)
  | none =>
      let (next, automaton) :=
        automaton.numberOf table (table.behind (automaton.state number) symbol)
      (next, { automaton with moves := automaton.moves.insert (number, symbol) next })

end Automaton

end StoryCatalog.Grammar
