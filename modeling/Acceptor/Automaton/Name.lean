import Acceptor.Automaton.Error

/-!
# Names in a description

A description of an automaton refers to its states by names. Labels are such names; a description
that comes from elsewhere may also name a state by something that is no text. Such a name can be
compared with others and shown, but it gives its state no label, so the check of the labels keeps
the state out of every automaton.
-/

namespace Acceptor

/-- Types whose values name the states of a description. -/
class StateName (Name : Type) where
  /-- The label of a state with this name. -/
  label : Name → Label
  /-- How a refusal refers to a name that is not listed. -/
  reference : Name → StateRef

/-- A label names the state that carries it. -/
instance : StateName Label where
  label label := label
  reference := .labelled

/-- A name as it was given, which need not be a text: another one is known by how it is shown. -/
inductive GivenName where
  | text (label : Label)
  | other (shown : String)
  deriving DecidableEq, Repr

/-- Only texts serve as labels; any other name leaves the label empty, which no state may have. -/
instance : StateName GivenName where
  label
    | .text label => label
    | .other _ => ""
  reference
    | .text label => .labelled label
    | .other shown => .other shown

end Acceptor
