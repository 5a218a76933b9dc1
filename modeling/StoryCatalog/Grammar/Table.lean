import Std.Data.HashMap
import StoryCatalog.Grammar.Production
import StoryCatalog.Grammar.TokenSet

/-!
# Numbered productions

For the reading, tokens and parts have numbers and the productions stand in one table, together
with what can be said of them beforehand: which tokens may come first in a part, which parts may
begin another one and what follows them there, and which productions start with a symbol.
-/

namespace StoryCatalog.Grammar

/-- A token or part by its number. -/
inductive Symbol where
  | token (number : Nat)
  | part (number : Nat)
deriving DecidableEq, Hashable, Repr

/-- A token of the language: its name, or the text of a mark, and whether it makes a node. -/
structure Terminal where
  name : String
  isNode : Bool
deriving Repr

/-- A part of the language: its name, which a repetition does not have, and the type of its nodes,
if it makes any. -/
structure Nonterminal where
  name : String
  type : Option String
  isRepetition : Bool
deriving Repr

/-- One way to make a part. -/
structure Production where
  part : Nat
  steps : Array (Step Symbol)

/-- A part that may begin another one: what may follow it there, and whether all that follows the
other one may follow it too. -/
structure Beginning where
  part : Nat
  follow : Follow
  isOpen : Bool

/-- A part `first` begins `part`, with something behind it or not. -/
structure Edge where
  part : Nat
  first : Nat
  follow : Follow
  isOpen : Bool

/-! ## Productions by name -/

/-- The parts of a grammar that have productions: those that are not spliced, and repetitions. -/
def heads (grammar : Grammar) : List Target :=
  let kept := grammar.definitions.filter fun d => d.visibility != .spliced
  kept.map (fun d => .part d.name)
    ++ (grammar.definitions.flatMap fun d => d.body.repeated).eraseDups.map .repetition

/-- The nesting of spliced parts that is resolved. -/
def splicingDepth : Nat := 8

/-- The ways to make a part, none of them empty. -/
def waysOf (grammar : Grammar) (head : Target) : List (List (Step Target)) :=
  let bodies : List (List (Step Target)) :=
    match head with
    | .part name =>
        match grammar.definitions.find? fun d => d.name == name with
        | some definition => definition.body.steps .none true
        | none => []
    | .repetition item =>
        let self : Step Target := Surroundings.none.map fun _ => .repetition item
        [self, self] :: item.steps .none true
    | _ => []
  (bodies.flatMap (splice grammar.definitions splicingDepth)).filter fun steps => !steps.isEmpty

/-! ## Numbers -/

/-- The numbers of tokens and parts. Number zero is the end of the text among the tokens, and the
whole text among the parts. -/
structure Numbering where
  terminals : Array Terminal
  parts : Array Nonterminal
  tokenNumbers : Std.HashMap String Nat
  partNumbers : Std.HashMap String Nat
  repetitions : Array Rule
  firstRepetition : Nat

namespace Numbering

/-- The parts numbered, and of the tokens only the end. -/
def start (grammar : Grammar) (heads : List Target) : Numbering :=
  let info : Target → Nonterminal
    | .part name =>
        let isNode := grammar.definitions.any fun d => d.name == name && d.visibility == .node
        ⟨name, if isNode then some name else none, false⟩
    | _ => ⟨"", none, true⟩
  let repetitions := heads.filterMap fun
    | .repetition item => some item
    | _ => none
  let names := heads.filterMap fun
    | .part name => some name
    | _ => none
  { terminals := #[⟨"", false⟩]
    parts := #[⟨"", none, false⟩] ++ (heads.map info).toArray
    tokenNumbers := {}
    partNumbers := Std.HashMap.ofList (names.zipIdx 1)
    repetitions := repetitions.toArray
    firstRepetition := names.length + 1 }

/-- Number a token that has no number yet. -/
def addToken (numbering : Numbering) (target : Target) : Numbering :=
  let add (name : String) (isNode : Bool) : Numbering :=
    if numbering.tokenNumbers.contains name then numbering
    else
      { numbering with
        terminals := numbering.terminals.push ⟨name, isNode⟩
        tokenNumbers := numbering.tokenNumbers.insert name numbering.terminals.size }
  match target with
  | .mark text => add text false
  | .token name => add name true
  | _ => numbering

/-- The number of what a step reads. -/
def symbol (numbering : Numbering) : Target → Symbol
  | .mark name | .token name => .token (numbering.tokenNumbers.getD name 0)
  | .part name => .part (numbering.partNumbers.getD name 0)
  | .repetition item =>
      .part (numbering.firstRepetition + (numbering.repetitions.findIdx? (· == item)).getD 0)

end Numbering

/-! ## The table -/

/-- The table of a grammar. The first production is for the whole text. -/
structure Table where
  terminals : Array Terminal
  parts : Array Nonterminal
  productions : Array Production
  rankings : List (List Rank)
  word : Nat
  firsts : Array Follow
  beginnings : Array (List Beginning)
  byToken : Array (List Nat)
  byPart : Array (List Nat)

/-- Repeat a step until it changes nothing, at most this often. -/
def untilStable {α : Type} (step : α → Option α) : Nat → α → α
  | 0, value => value
  | rounds + 1, value =>
      match step value with
      | none => value
      | some next => untilStable step rounds next

/-- What may come first in a step. -/
def Step.first (word : Nat) (firsts : Array Follow) (step : Step Symbol) : Follow :=
  match step.symbol with
  | .token token =>
      ⟨.single token, if token == word then if step.anyWord then .free else .reserved else .none⟩
  | .part part => firsts.getD part .empty

/-- What may come first in each part. -/
def firstsOf (word : Nat) (partCount : Nat) (productions : Array Production) : Array Follow :=
  untilStable (fun firsts =>
      let next := productions.foldl (fun (known : Array Follow) production =>
        match production.steps[0]? with
        | some step =>
            known.modify production.part fun follow => follow.union (step.first word known)
        | none => known) firsts
      if next == firsts then none else some next)
    partCount (Array.replicate partCount .empty)

/-- The parts that begin other ones, each pair once. -/
def edgesOf (word : Nat) (firsts : Array Follow) (productions : Array Production) : List Edge :=
  let found := productions.foldl (fun (found : Std.HashMap (Nat × Nat) Edge) production =>
    match production.steps[0]?.map (fun step => step.symbol) with
    | some (Symbol.part first) =>
        let key := (production.part, first)
        let known := found.getD key ⟨production.part, first, .empty, false⟩
        match production.steps[1]? with
        | some second =>
            found.insert key { known with follow := known.follow.union (second.first word firsts) }
        | none => found.insert key { known with isOpen := true }
    | _ => found) ({} : Std.HashMap (Nat × Nat) Edge)
  found.toList.map Prod.snd

/-- The parts that may begin a part, itself among them. -/
def beginningsOf (partCount : Nat) (edges : List Edge) (part : Nat) : List Beginning :=
  let start : Array (Option Beginning) :=
    (Array.replicate partCount none).set! part (some ⟨part, .empty, true⟩)
  let reached := untilStable (fun reached =>
      let (next, changed) := edges.foldl (fun (known, changed) edge =>
        match known.getD edge.part none with
        | none => (known, changed)
        | some outer =>
            let follow := if edge.isOpen then edge.follow.union outer.follow else edge.follow
            let inner : Beginning := ⟨edge.first, follow, edge.isOpen && outer.isOpen⟩
            match known.getD edge.first none with
            | none => (known.set! edge.first (some inner), true)
            | some before =>
                let both : Beginning :=
                  ⟨edge.first, before.follow.union inner.follow, before.isOpen || inner.isOpen⟩
                if both.follow == before.follow && both.isOpen == before.isOpen then
                  (known, changed)
                else (known.set! edge.first (some both), true)) (reached, false)
      if changed then some next else none)
    partCount start
  reached.toList.filterMap id

/-- The numbers of the productions whose first step has this property. -/
def startingWith (productions : Array Production) (count : Nat) (number? : Symbol → Option Nat) :
    Array (List Nat) :=
  (List.range productions.size).reverse.foldl (fun found index =>
    match (productions[index]?.bind fun p => p.steps[0]?).bind fun step => number? step.symbol with
    | some number => found.modify number (index :: ·)
    | none => found) (Array.replicate count [])

/-- The table of a grammar. -/
def Table.ofGrammar (grammar : Grammar) : Table :=
  let heads := heads grammar
  let ways := heads.map fun head => (waysOf grammar head).eraseDups
  let numbering := ways.flatten.flatten.foldl (fun numbering step => numbering.addToken step.symbol)
    (Numbering.start grammar heads)
  let whole : Production := ⟨0, #[Surroundings.none.map fun _ => .part 1]⟩
  let productions := #[whole] ++ (ways.zipIdx 1).toArray.flatMap fun (steps, part) =>
    (steps.map fun steps =>
      (⟨part, (steps.map fun step => step.map numbering.symbol).toArray⟩ : Production)).toArray
  let word := numbering.tokenNumbers.getD grammar.word 0
  let count := numbering.parts.size
  let firsts := firstsOf word count productions
  let edges := edgesOf word firsts productions
  { terminals := numbering.terminals
    parts := numbering.parts
    productions
    rankings := grammar.rankings
    word
    firsts
    beginnings := ((List.range count).map (beginningsOf count edges)).toArray
    byToken := startingWith productions numbering.terminals.size fun
      | .token number => some number
      | .part _ => none
    byPart := startingWith productions count fun
      | .part number => some number
      | .token _ => none }

end StoryCatalog.Grammar
