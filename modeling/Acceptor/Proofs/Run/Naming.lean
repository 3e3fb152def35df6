import Acceptor.Proofs.Automaton.Canonical
import Acceptor.Proofs.Run.Journey
import Acceptor.Run.Trace

/-!
# Naming the states of a verdict

A verdict refers to states by their identifiers, while what is shown of it names them by their
labels. The verdict of a check refers to states of its automaton only (`within_check`), because it
concludes a journey, and a journey does not leave the automaton. Every name can then be looked up.
-/

namespace Acceptor

/-- A journey from a known state has known states only at the ends of its transitions. -/
theorem Journey.steps_known {model : Automaton} {state last : StateId} {symbols left : List Symbol}
    {steps : List Transition} (valid : model.Valid) (known : state ∈ model.ids)
    (journey : Journey model state symbols steps last left) :
    ∀ step ∈ steps, step.source ∈ model.ids ∧ step.target ∈ model.ids := by
  induction journey with
  | halt => exact nofun
  | move found onward inductionHypothesis =>
    have member := (Automaton.target?_eq_some_iff valid.keysDistinct).mp found
    have arrives := valid.targetsKnown _ member
    exact List.forall_mem_cons.mpr ⟨⟨known, arrives⟩, inductionHypothesis arrives⟩

namespace Verdict

/-- A verdict refers to states of an automaton only. -/
structure Within (model : Automaton) (verdict : Verdict) : Prop where
  state : verdict.state ∈ model.ids
  steps : ∀ step ∈ verdict.steps, step.source ∈ model.ids ∧ step.target ∈ model.ids

variable {model : Automaton} {verdict : Verdict}

/-- The verdict of a check refers to states of its automaton. -/
theorem within_check (valid : model.Valid) (emptyAccepts : Bool) (symbols : List Symbol) :
    (model.check emptyAccepts symbols).Within model := by
  obtain ⟨left, concluded⟩ := model.exists_concluded_check emptyAccepts symbols
  exact ⟨concluded.journey.last_known valid valid.initialKnown,
    concluded.journey.steps_known valid valid.initialKnown⟩

/-- The row for a transition with a number. -/
def row (model : Automaton) (number : Nat) (step : Transition) : TraceRow :=
  ⟨number, model.labelOf step.source, step.symbol, model.labelOf step.target⟩

theorem traceFrom_of_known {steps : List Transition}
    (known : ∀ step ∈ steps, step.source ∈ model.ids ∧ step.target ∈ model.ids) (number : Nat) :
    traceFrom model number steps =
      .ok (steps.mapIdx fun index step => row model (number + index) step) := by
  induction steps generalizing number with
  | nil => rfl
  | cons step rest inductionHypothesis =>
    obtain ⟨⟨source, target⟩, others⟩ := List.forall_mem_cons.mp known
    rw [traceFrom, Automaton.label_of_known source, Automaton.label_of_known target,
      inductionHypothesis others (number + 1), List.mapIdx_cons]
    simp only [Nat.add_right_comm number 1, Nat.add_assoc number]
    rfl

/-- The trace of a verdict has a row for each of its transitions, numbered from 1. -/
theorem Within.trace (within : verdict.Within model) :
    verdict.trace model =
      .ok (verdict.steps.mapIdx fun index step => row model (1 + index) step) :=
  traceFrom_of_known within.steps 1

/-- A verdict on states of an automaton can be put in a sentence. -/
theorem Within.exists_describe (within : verdict.Within model) :
    ∃ sentence, verdict.describe model = .ok sentence := by
  unfold describe
  rw [Automaton.label_of_known within.state]
  cases verdict.outcome with
  | accepted => exact ⟨_, rfl⟩
  | stuck index symbol => exact ⟨_, rfl⟩
  | notAccepting length => exact ⟨_, rfl⟩

end Verdict

end Acceptor
