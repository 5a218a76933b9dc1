import StoryCatalog.Grammar.Rule

/-!
# Productions

The ways to make a part are listed one by one: a production is a sequence of steps without choices.
A repetition becomes a part of its own, which is two of itself or one item, and parts that are to be
replaced by their rules are gone.
-/

namespace StoryCatalog.Grammar

/-- What a step of a production reads. -/
inductive Target where
  | mark (text : String)
  | token (name : String)
  | part (name : String)
  | repetition (item : Rule)
deriving DecidableEq, Repr

/-- A step of a production over a type of symbols: what it reads, the grade and side that hold
behind it, the type and field of its nodes, and whether a name may be any word. -/
structure Step (σ : Type) where
  symbol : σ
  grade : Option String
  side : Option Side
  type : Option String
  field : Option String
  anyWord : Bool
deriving DecidableEq, Repr

/-- The same step with another symbol. -/
def Step.map {σ τ : Type} (f : σ → τ) (step : Step σ) : Step τ :=
  { step with symbol := f step.symbol }

/-- What surrounds a rule: everything of a step but its symbol. -/
abbrev Surroundings := Step Unit

/-- Nothing surrounds a rule. -/
def Surroundings.none : Surroundings :=
  ⟨(), .none, .none, .none, .none, false⟩

/-- Change the last of several steps. -/
def changeLast {α : Type} (f : α → α) : List α → List α
  | [] => []
  | [last] => [f last]
  | first :: rest => first :: changeLast f rest

/-- The sequences of steps that a rule stands for. Behind a graded rule the grade around it holds
again, unless it is the end of the production. -/
def Rule.steps (around : Surroundings) (atEnd : Bool) : Rule → List (List (Step Target))
  | .empty => [[]]
  | .mark text => [[around.map fun _ => .mark text]]
  | .token name => [[around.map fun _ => .token name]]
  | .part name => [[around.map fun _ => .part name]]
  | .oneOrMore item => [[around.map fun _ => .repetition item]]
  | .sequence first second =>
      (first.steps around false).flatMap fun front =>
        (second.steps around atEnd).map fun back => front ++ back
  | .either first second => first.steps around atEnd ++ second.steps around atEnd
  | .called type rule => rule.steps { around with type := some type } atEnd
  | .field name rule => rule.steps { around with field := some name } atEnd
  | .anyWord rule => rule.steps { around with anyWord := true } atEnd
  | .graded grade side rule =>
      let inner := { around with grade := grade, side := side.or around.side }
      (rule.steps inner atEnd).map fun steps =>
        if atEnd then steps
        else changeLast (fun step => { step with grade := around.grade, side := around.side }) steps

/-- Steps in place of one: they take on its type and field, and the last one its grade and side
where it has none. -/
def Step.replace {σ : Type} (removed : Step σ) (inserted : List (Step σ)) : List (Step σ) :=
  changeLast
    (fun last =>
      { last with grade := last.grade.or removed.grade, side := last.side.or removed.side })
    (inserted.map fun step =>
      { step with type := removed.type.or step.type, field := removed.field.or step.field })

/-- The spliced definition of a part, if it is to be replaced by its rule. -/
def spliced? (definitions : List Definition) (target : Target) : Option Definition :=
  match target with
  | .part name => definitions.find? fun d => d.name == name && d.visibility == .spliced
  | _ => none

/-- The sequences of steps without spliced parts: each one is replaced by its rule, whose own
spliced parts are replaced in turn, to a depth of nesting. -/
def splice (definitions : List Definition) : Nat → List (Step Target) → List (List (Step Target))
  | 0, steps => [steps]
  | depth + 1, steps =>
      steps.foldr (fun step backs =>
        let fronts : List (List (Step Target)) :=
          match spliced? definitions step.symbol with
          | none => [[step]]
          | some definition =>
              (definition.body.steps .none true).flatMap fun inner =>
                splice definitions depth (step.replace inner)
        fronts.flatMap fun front => backs.map fun back => front ++ back) [[]]

end StoryCatalog.Grammar
