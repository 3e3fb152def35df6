import Acceptor.Automaton.Error

/-!
# Writing a specification

The text of an automaton in the format that `parse` reads, one transition a line. Labels and
symbols are written as they are, in the quotes that they leave free, so each of them has to be a
literal.
-/

namespace Acceptor.Spec

/-- A text as a literal: in single quotes, unless it holds one. -/
def writeLiteral (text : String) : Except AutomatonError String := do
  requireLiteral "Serialized values" text
  let quote := if text.toList.contains '\'' then "\"" else "'"
  return quote ++ text ++ quote

/-- A list value. The empty list is written as a call, since empty braces are a table. -/
def writeList (items : List String) : Except AutomatonError String := do
  let literals ← items.mapM writeLiteral
  if literals.isEmpty then return "set()"
  return "\x7b" ++ ", ".intercalate literals ++ "\x7d"

/-- One line of the transition table. -/
def writeTransition (model : Automaton) (transition : Transition) :
    Except AutomatonError String := do
  let source ← writeLiteral (← model.label transition.source)
  let symbol ← writeLiteral transition.symbol
  let target ← writeLiteral (← model.label transition.target)
  return "        (" ++ source ++ ", " ++ symbol ++ "): " ++ target ++ ","

/-- The lines of the transition table. -/
def writeTable (model : Automaton) : Except AutomatonError (List String) := do
  if model.transitions.isEmpty then return ["    'transitions': \x7b\x7d"]
  let entries ← model.transitions.mapM (writeTransition model)
  return ["    'transitions': \x7b"] ++ entries ++ ["    \x7d"]

/-- The lines of a specification. -/
def writeLines (model : Automaton) : Except AutomatonError (List String) := do
  let alphabet ← writeList model.alphabet
  let states ← writeList model.labels
  let initial ← writeLiteral (← model.label model.initial)
  let accepting ← writeList (model.acceptingStates.map State.label)
  let table ← writeTable model
  return ["SPEC_DFA = \x7b",
    "    'alphabet': " ++ alphabet ++ ",",
    "    'states': " ++ states ++ ",",
    "    'initial_state': " ++ initial ++ ",",
    "    'accepting_states': " ++ accepting ++ ","] ++ table ++ ["\x7d"]

/-- The text that specifies an automaton. -/
def write (model : Automaton) : Except AutomatonError String := do
  return "\n".intercalate (← writeLines model)

end Acceptor.Spec
