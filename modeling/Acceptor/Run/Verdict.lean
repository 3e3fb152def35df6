import Acceptor.Automaton.Error

/-!
# Checking an input

The verdict on an input: whether it is accepted, where the run ended, and the transitions that it
took. The empty input is accepted or refused by a setting, whatever the initial state is.
-/

namespace Acceptor

/-- How a run ends: with acceptance, at a symbol that has no transition, or after the whole input
in a state that does not accept. -/
inductive Outcome where
  | accepted
  | stuck (index : Nat) (symbol : Symbol)
  | notAccepting (length : Nat)
  deriving DecidableEq, Repr

/-- The result of a run: how it ended, in which state, and after which transitions. -/
structure Verdict where
  outcome : Outcome
  state : StateId
  steps : List Transition
  deriving DecidableEq, Repr

namespace Verdict

/-- The input is accepted. -/
def accepted (verdict : Verdict) : Bool :=
  verdict.outcome == .accepted

/-- The verdict of a run that took one more transition at its start. -/
def after (step : Transition) (verdict : Verdict) : Verdict :=
  { verdict with steps := step :: verdict.steps }

/-- A verdict in a sentence. -/
def describe (model : Automaton) (verdict : Verdict) : Except AutomatonError String :=
  match verdict.outcome with
  | .accepted => .ok "String accepted"
  | .stuck _ symbol =>
    (model.label verdict.state).map fun label =>
      "String not accepted: no transition for " ++ symbol ++ " from state " ++ label
  | .notAccepting _ =>
    (model.label verdict.state).map fun label =>
      "String not accepted: finished in non-accepting state " ++ label

end Verdict

namespace Automaton

/-- The verdict on the empty input unless a check asks for another one. -/
def emptyInputAccepted : Bool := true

/-- The verdict on the rest of an input, of which some symbols have been consumed on the way to the
current state. -/
def checkFrom (model : Automaton) (current : StateId) (consumed : Nat) : List Symbol → Verdict
  | [] => ⟨if model.isAccepting current then .accepted else .notAccepting consumed, current, []⟩
  | symbol :: rest =>
    match model.target? current symbol with
    | none => ⟨.stuck consumed symbol, current, []⟩
    | some target =>
      (model.checkFrom target (consumed + 1) rest).after ⟨current, symbol, target⟩

/-- The verdict on the empty input. -/
def checkEmpty (model : Automaton) (emptyAccepts : Bool) : Verdict :=
  ⟨if emptyAccepts then .accepted else .notAccepting 0, model.initial, []⟩

/-- The verdict on an input. -/
def check (model : Automaton) (emptyAccepts : Bool) : List Symbol → Verdict
  | [] => model.checkEmpty emptyAccepts
  | symbols => model.checkFrom model.initial 0 symbols

end Automaton

end Acceptor
