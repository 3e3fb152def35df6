import Acceptor.Literal

/-!
# Automata

A deterministic automaton over texts as symbols. States carry an identifier, which may be any
integer, and a label; transitions are kept in the order in which they were installed, because
every listing of them shows that order, while two automata count as equal without regard to it.
`Automaton.Valid` says what every automaton handed out by this library satisfies.
-/

namespace Acceptor

/-- What identifies a state within one automaton. -/
abbrev StateId := Int

/-- The name a state is shown by. -/
abbrev Label := String

/-- One input symbol, which may have several characters. -/
abbrev Symbol := String

/-- A state of an automaton. -/
structure State where
  id : StateId
  label : Label
  accepting : Bool
  deriving DecidableEq, Repr

/-- A move from one state to another on a symbol. -/
structure Transition where
  source : StateId
  symbol : Symbol
  target : StateId
  deriving DecidableEq, Repr

/-- The part of a transition that determines its target. -/
def Transition.key (transition : Transition) : StateId × Symbol :=
  (transition.source, transition.symbol)

/-- An automaton with its states, symbols and transitions in order. -/
structure Automaton where
  states : List State
  alphabet : List Symbol
  transitions : List Transition
  initial : StateId
  deriving DecidableEq, Repr

namespace Automaton

/-- The identifiers of all states, in order. -/
def ids (model : Automaton) : List StateId :=
  model.states.map State.id

/-- The labels of all states, in order. -/
def labels (model : Automaton) : List Label :=
  model.states.map State.label

/-- The state with an identifier. -/
def state? (model : Automaton) (id : StateId) : Option State :=
  model.states.find? (·.id == id)

/-- The first state with a label. -/
def stateByLabel? (model : Automaton) (label : Label) : Option State :=
  model.states.find? (·.label == label)

/-- The initial state. -/
def initialState? (model : Automaton) : Option State :=
  model.state? model.initial

/-- An identifier belongs to some state. -/
def contains (model : Automaton) (id : StateId) : Bool :=
  model.ids.contains id

/-- The target of the transition from a state on a symbol. -/
def target? (model : Automaton) (source : StateId) (symbol : Symbol) : Option StateId :=
  (model.transitions.find? (·.key == (source, symbol))).map Transition.target

/-- The transitions that leave a state, in order. -/
def outgoing (model : Automaton) (source : StateId) : List Transition :=
  model.transitions.filter (·.source == source)

/-- A state exists and accepts. -/
def isAccepting (model : Automaton) (id : StateId) : Bool :=
  (model.state? id).any State.accepting

/-- The accepting states, in order. -/
def acceptingStates (model : Automaton) : List State :=
  model.states.filter State.accepting

/-- The greatest identifier in use. -/
def maxId (model : Automaton) : StateId :=
  model.ids.max?.getD model.initial

/-- What holds of every automaton that was built, read or edited: it has states, their identifiers
differ, the initial one is among them, all texts are literals, transitions join known states, and
no two transitions have the same source and symbol. -/
structure Valid (model : Automaton) : Prop where
  hasStates : model.states ≠ []
  idsDistinct : model.ids.Nodup
  initialKnown : model.initial ∈ model.ids
  labelsUsable : ∀ state ∈ model.states, literalFault? state.label = none
  alphabetUsable : ∀ symbol ∈ model.alphabet, literalFault? symbol = none
  symbolsUsable : ∀ transition ∈ model.transitions, literalFault? transition.symbol = none
  sourcesKnown : ∀ transition ∈ model.transitions, transition.source ∈ model.ids
  targetsKnown : ∀ transition ∈ model.transitions, transition.target ∈ model.ids
  keysDistinct : (model.transitions.map Transition.key).Nodup

/-- Two automata are the same up to the order in which their transitions were installed. -/
structure Same (left right : Automaton) : Prop where
  states : left.states = right.states
  alphabet : left.alphabet = right.alphabet
  transitions : left.transitions.Perm right.transitions
  initial : left.initial = right.initial

instance (left right : Automaton) : Decidable (Same left right) :=
  decidable_of_iff
    (left.states = right.states ∧ left.alphabet = right.alphabet ∧
      left.transitions.Perm right.transitions ∧ left.initial = right.initial)
    ⟨fun ⟨states, alphabet, transitions, initial⟩ => ⟨states, alphabet, transitions, initial⟩,
      fun same => ⟨same.states, same.alphabet, same.transitions, same.initial⟩⟩

end Automaton

end Acceptor
