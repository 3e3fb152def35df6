import Acceptor.Automaton.Basic
import Acceptor.Distinct

/-!
# The graph of an automaton

What is drawn of an automaton: one node for each state and one edge for each pair of states that
transitions join, listing their symbols. Edges are numbered from 1 in the order in which their
pair first occurs, so an edge's identifier means something within one projection only.
-/

namespace Acceptor

/-- A node of the graph. -/
structure Node where
  id : StateId
  label : Label
  accepting : Bool
  emphasis : Nat
  initial : Bool
  deriving DecidableEq, Repr

/-- What identifies an edge within its projection. -/
structure EdgeId where
  number : Nat
  deriving DecidableEq, Repr

/-- An edge identifier as it is shown. -/
def EdgeId.name (id : EdgeId) : String :=
  "e" ++ toString id.number

/-- An edge of the graph, with the symbols of all its transitions. -/
structure Edge where
  id : EdgeId
  source : StateId
  target : StateId
  symbols : List Symbol
  deriving DecidableEq, Repr

/-- The text written at an edge. -/
def Edge.label (edge : Edge) : String :=
  ", ".intercalate edge.symbols

/-- The graph of an automaton. -/
structure Projection where
  nodes : List Node
  edges : List Edge
  deriving DecidableEq, Repr

namespace Projection

/-- The node of a state. -/
def node? (projection : Projection) (id : StateId) : Option Node :=
  projection.nodes.find? (·.id == id)

/-- The edge from one state to another. -/
def edgeBetween? (projection : Projection) (source target : StateId) : Option Edge :=
  projection.edges.find? fun edge => edge.source == source && edge.target == target

/-- The edge that leaves a state on a symbol. -/
def edgeFor? (projection : Projection) (source : StateId) (symbol : Symbol) : Option Edge :=
  projection.edges.find? fun edge => edge.source == source && edge.symbols.contains symbol

end Projection

/-- The pair of states that a transition joins. -/
def Transition.ends (transition : Transition) : StateId × StateId :=
  (transition.source, transition.target)

namespace Automaton

/-- How strongly a node is drawn: accepting states stand out. -/
def emphasis (accepting : Bool) : Nat :=
  if accepting then 3 else 1

/-- The node that a state is drawn as. -/
def nodeOf (model : Automaton) (state : State) : Node :=
  ⟨state.id, state.label, state.accepting, emphasis state.accepting, state.id == model.initial⟩

/-- The pairs of states joined by transitions, in the order of their first transitions. -/
def joinedPairs (model : Automaton) : List (StateId × StateId) :=
  distinct (model.transitions.map Transition.ends)

/-- The symbols that lead from the first state of a pair to the second, in transition order. -/
def symbolsBetween (model : Automaton) (pair : StateId × StateId) : List Symbol :=
  (model.transitions.filter (·.ends == pair)).map Transition.symbol

/-- The graph of an automaton. -/
def projection (model : Automaton) : Projection where
  nodes := model.states.map model.nodeOf
  edges := model.joinedPairs.mapIdx fun index pair =>
    ⟨⟨index + 1⟩, pair.1, pair.2, model.symbolsBetween pair⟩

end Automaton

end Acceptor
