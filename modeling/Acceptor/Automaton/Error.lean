import Acceptor.Automaton.Basic

/-!
# Refusals around an automaton

Why a description is not an automaton and why an edit of one is refused, with the wording of each.
-/

namespace Acceptor

/-- How a state that does not exist was referred to: by an identifier, by a label, or by something
that is neither and is kept as it is shown. -/
inductive StateRef where
  | numbered (id : StateId)
  | labelled (label : Label)
  | other (shown : String)
  deriving DecidableEq, Repr

/-- A reference as messages show it: only labels stand in quotes. -/
def StateRef.shown : StateRef → String
  | .numbered id => toString id
  | .labelled label => Text.quoted label
  | .other shown => shown

/-- Why an automaton could not be made or changed. -/
inductive AutomatonError where
  | noStates
  | repeatedIds
  | repeatedLabels
  | literal (error : LiteralError)
  | unknownState (reference : StateRef)
  | conflict (source : State) (symbol : Symbol) (existing : State)
  deriving DecidableEq, Repr

/-- The wording of a refusal. -/
def AutomatonError.message : AutomatonError → String
  | .noStates => "An automaton needs at least one state."
  | .repeatedIds => "State ids must be unique."
  | .repeatedLabels => "State labels must be unique."
  | .literal error => error.message
  | .unknownState reference => "State " ++ reference.shown ++ " does not exist."
  | .conflict source symbol existing =>
    source.label ++ " has a transition with value " ++ symbol ++ " already (to " ++
      existing.label ++ ")."

/-- Refuses a text that is no literal. -/
def requireLiteral (subject text : String) : Except AutomatonError Unit :=
  match literalFault? text with
  | none => .ok ()
  | some fault => .error (.literal ⟨subject, text, fault⟩)

namespace Automaton

/-- Refuses an identifier that no state has. -/
def requireState (model : Automaton) (id : StateId) : Except AutomatonError Unit :=
  if model.contains id then .ok () else .error (.unknownState (.numbered id))

/-- The state with an identifier, or the refusal of an unknown one. -/
def state (model : Automaton) (id : StateId) : Except AutomatonError State :=
  match model.state? id with
  | some state => .ok state
  | none => .error (.unknownState (.numbered id))

/-- The label of the state with an identifier. -/
def label (model : Automaton) (id : StateId) : Except AutomatonError Label :=
  (model.state id).map State.label

end Automaton

end Acceptor
