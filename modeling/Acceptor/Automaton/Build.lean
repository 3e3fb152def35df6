import Acceptor.Automaton.Edit
import Acceptor.Automaton.Name

/-!
# Making automata

Three ways to an automaton: the empty one, one from its parts after a check, and one from a
description by names, whose states are numbered from 1 in the order in which they are listed.
-/

namespace Acceptor

/-- Puts a transition into a table with one entry for each source and symbol: an entry that is
there keeps its place and takes the new target. -/
def Transition.put (table : List Transition) (transition : Transition) : List Transition :=
  if table.any (·.key == transition.key) then
    table.map fun entry => if entry.key == transition.key then transition else entry
  else table ++ [transition]

/-- The table that a list of transitions amounts to. -/
def Transition.table (transitions : List Transition) : List Transition :=
  transitions.foldl Transition.put []

/-- A description of an automaton in which states are referred to by name. -/
structure Listing (Name : Type) where
  states : List Name
  alphabet : List Symbol
  initial : Name
  accepting : List Name
  transitions : List (Name × Symbol × Name)
  deriving DecidableEq, Repr

namespace Automaton

/-- The alphabet of the empty automaton. -/
def defaultAlphabet : List Symbol := ["A", "C", "0"]

/-- The label of the only state of the empty automaton, unless another is given. -/
def startLabel : Label := "Start"

/-- Returns an automaton that passes all checks, or the first refusal: states and their
identifiers first, then labels, alphabet and transitions in order. -/
def checked (model : Automaton) : Except AutomatonError Automaton := do
  if model.states.isEmpty then throw .noStates
  if ¬model.ids.Nodup then throw .repeatedIds
  model.requireState model.initial
  model.states.forM fun state => requireLiteral "State labels" state.label
  model.alphabet.forM (requireLiteral "Alphabet symbols")
  model.transitions.forM fun transition => do
    requireLiteral "Transition symbols" transition.symbol
    model.requireState transition.source
    model.requireState transition.target
  return model

/-- An automaton from its parts. -/
def ofParts (states : List State) (alphabet : List Symbol) (transitions : List Transition)
    (initial : StateId) : Except AutomatonError Automaton :=
  checked ⟨states, alphabet, Transition.table transitions, initial⟩

/-- One initial state that does not accept, and no transitions. -/
def withStart (label : Label) : Automaton :=
  ⟨[⟨1, label, false⟩], defaultAlphabet, [], 1⟩

/-- The automaton a session starts from. -/
def empty : Automaton :=
  withStart startLabel

/-- The empty automaton with its state named as given. -/
def emptyWith (label : Label) : Except AutomatonError Automaton :=
  checked (withStart label)

end Automaton

namespace Listing

variable {Name : Type} [DecidableEq Name] [StateName Name]

/-- The identifier of a listed name: its place in the list, from 1. -/
def idOf? (listing : Listing Name) (name : Name) : Option StateId :=
  (listing.states.idxOf? name).map fun index => (index : Int) + 1

/-- The identifier of a name, or the refusal of one that is not listed. -/
def idOf (listing : Listing Name) (name : Name) : Except AutomatonError StateId :=
  match listing.idOf? name with
  | some id => .ok id
  | none => .error (.unknownState (StateName.reference name))

/-- The states of the description, numbered in order. -/
def numberedStates (listing : Listing Name) : List State :=
  listing.states.mapIdx fun index name =>
    ⟨(index : Int) + 1, StateName.label name, listing.accepting.contains name⟩

/-- Installs the described transitions one after the other. -/
def installAll (listing : Listing Name) :
    List (Name × Symbol × Name) → Automaton → Except AutomatonError Automaton
  | [], model => .ok model
  | (source, symbol, target) :: rest, model => do
    let sourceId ← listing.idOf source
    let targetId ← listing.idOf target
    listing.installAll rest (← model.addTransition sourceId targetId symbol)

/-- The automaton that a description stands for. -/
def build (listing : Listing Name) : Except AutomatonError Automaton := do
  if ¬listing.states.Nodup then throw .repeatedLabels
  let initial ← listing.idOf listing.initial
  listing.accepting.forM fun name => discard (listing.idOf name)
  let start ← Automaton.checked ⟨listing.numberedStates, listing.alphabet, [], initial⟩
  listing.installAll listing.transitions start

end Listing

end Acceptor
