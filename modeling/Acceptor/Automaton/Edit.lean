import Acceptor.Automaton.Error

/-!
# Edits

The three changes that can be made to an automaton: a new state, a new transition, another
accepting flag. Each returns a new automaton. An edit that would make the automaton
nondeterministic or refer to an unknown state is refused, and one that changes nothing returns the
automaton as it is.
-/

namespace Acceptor.Automaton

/-- The label that a new state has if no other state has it yet. -/
def plainLabel (id : StateId) : Label :=
  "Q" ++ toString id

/-- The numbered variants of a new state's label. -/
def numberedLabel (id : StateId) (number : Nat) : Label :=
  plainLabel id ++ "_" ++ toString number

/-- The label of a new state: the plain one if it is free, otherwise the free variant with the
least number from 1. As many variants as there are states are enough to meet a free one, because
one of the states has the plain label. -/
def freshLabel (model : Automaton) (id : StateId) : Label :=
  if model.labels.contains (plainLabel id) then
    let numbers := List.range' 1 model.states.length
    let free := numbers.find? fun number => !model.labels.contains (numberedLabel id number)
    numberedLabel id (free.getD 1)
  else plainLabel id

/-- Adds a state under the next greater identifier, and returns that identifier as well. -/
def addState (model : Automaton) (accepting : Bool) : Automaton × StateId :=
  let id := model.maxId + 1
  let state : State := ⟨id, model.freshLabel id, accepting⟩
  ({ model with states := model.states ++ [state] }, id)

/-- The alphabet with a symbol in it, at the end if it was not there. -/
def withSymbol (alphabet : List Symbol) (symbol : Symbol) : List Symbol :=
  if alphabet.contains symbol then alphabet else alphabet ++ [symbol]

/-- Installs a transition. Installing one that is there already changes nothing; another target
for the same source and symbol is a conflict. -/
def addTransition (model : Automaton) (source target : StateId) (symbol : Symbol) :
    Except AutomatonError Automaton := do
  let sourceState ← model.state source
  model.requireState target
  requireLiteral "Transition symbols" symbol
  match model.target? source symbol with
  | some existing =>
    if existing = target then return model
    let existingState ← model.state existing
    throw (.conflict sourceState symbol existingState)
  | none =>
    return { model with
      alphabet := withSymbol model.alphabet symbol
      transitions := model.transitions ++ [⟨source, symbol, target⟩] }

/-- Sets whether a state accepts. -/
def setAccepting (model : Automaton) (id : StateId) (accepting : Bool) :
    Except AutomatonError Automaton := do
  let current ← model.state id
  if current.accepting = accepting then return model
  return { model with
    states := model.states.map fun state =>
      if state.id = id then { state with accepting } else state }

end Acceptor.Automaton
