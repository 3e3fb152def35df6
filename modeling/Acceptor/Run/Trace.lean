import Acceptor.Run.Verdict

/-!
# The trace of a run

The transitions that a run took, as a table with one numbered row for each.
-/

namespace Acceptor

/-- A row of a trace: its number from 1, and one transition with labels for states. -/
structure TraceRow where
  number : Nat
  source : Label
  symbol : Symbol
  target : Label
  deriving DecidableEq, Repr

/-- The headings of a trace, row numbers apart. -/
def traceColumns : List String := ["From State", "Input", "To State"]

namespace Verdict

/-- The rows for some transitions, numbered from a given number on. -/
def traceFrom (model : Automaton) : Nat → List Transition → Except AutomatonError (List TraceRow)
  | _, [] => .ok []
  | number, step :: rest => do
    let source ← model.label step.source
    let target ← model.label step.target
    return ⟨number, source, step.symbol, target⟩ :: (← traceFrom model (number + 1) rest)

/-- The rows of a verdict's trace. -/
def trace (model : Automaton) (verdict : Verdict) : Except AutomatonError (List TraceRow) :=
  traceFrom model 1 verdict.steps

end Verdict

end Acceptor
