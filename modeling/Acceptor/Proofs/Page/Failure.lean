import Acceptor.Proofs.Importing
import Acceptor.Proofs.Page.Conduct

/-!
# Refusals that a page does not report

A page reports why something was refused and goes on. Refusals that are not reported end the visit
instead. Of all that can be refused on a visit, only a transition can be refused like this
(`Course.isReported_of_refusal`), and only for its symbol (`Course.failure?_of_usable`). So nothing
but a toolkit that lets the button for transitions act without a chosen symbol, or that chooses a
symbol which is not offered, can cut a visit short before its check.
-/

namespace Acceptor

namespace Workbench

/-- All refusals of a step are reported. -/
def Reporting {α : Type} (step : Except WorkbenchError α) : Prop :=
  ∀ error, step = .error error → error.isReported = true

section Reporting

variable {α β ε : Type}

theorem reporting_ok (value : α) : Reporting (.ok value) := by
  intro error refused
  cases refused

theorem Reporting.bind {step : Except WorkbenchError α} {next : α → Except WorkbenchError β}
    (first : Reporting step) (others : ∀ value, Reporting (next value)) :
    Reporting (step >>= next) := by
  intro error refused
  rcases bind_eq_error_iff.mp refused with here | ⟨value, -, later⟩
  · exact first error here
  · exact others value error later

theorem Reporting.map {step : Except WorkbenchError α} (first : Reporting step) (change : α → β) :
    Reporting (step.map change) := by
  cases step with
  | ok value => exact reporting_ok _
  | error error =>
    intro same refused
    obtain rfl := Except.error.inj refused
    exact first error rfl

/-- A refusal is reported if its cause leads to one that is. -/
theorem reporting_mapError {step : Except ε α} {cause : ε → WorkbenchError}
    (reported : ∀ error, step = .error error → (cause error).isReported = true) :
    Reporting (step.mapError cause) := by
  cases step with
  | ok value => exact reporting_ok _
  | error error =>
    intro same refused
    obtain rfl := Except.error.inj refused
    exact reported error rfl

end Reporting

variable {bench : Workbench} {model : Automaton} {error : AutomatonError}

theorem reporting_requireIdle (operation : Operation) :
    Reporting (bench.requireIdle operation) := by
  intro error refused
  unfold requireIdle at refused
  split at refused
  · obtain rfl := Except.error.inj refused
    rfl
  · cases refused

theorem reporting_reset : Reporting bench.reset :=
  (reporting_requireIdle .reset).bind fun _ => reporting_ok _

theorem reporting_addState (accepting : Bool) : Reporting (bench.addState accepting) :=
  (reporting_requireIdle .addState).bind fun _ => reporting_ok _

theorem reporting_undo : Reporting bench.undo := by
  apply (reporting_requireIdle .undo).bind
  intro _
  cases bench.history <;> exact reporting_ok _

theorem reporting_startRun (text : Option String) : Reporting (bench.startRun text) :=
  (reporting_requireIdle .startRun).bind fun _ => reporting_ok _

theorem isReported_of_state {id : StateId} (refused : model.state id = .error error) :
    (WorkbenchError.automaton error).isReported = true := by
  unfold Automaton.state at refused
  split at refused
  · cases refused
  · obtain rfl := Except.error.inj refused
    rfl

theorem isReported_of_requireState {id : StateId} (refused : model.requireState id = .error error) :
    (WorkbenchError.automaton error).isReported = true := by
  unfold Automaton.requireState at refused
  split at refused
  · cases refused
  · obtain rfl := Except.error.inj refused
    rfl

/-- An automaton refuses to change a state because it does not exist. -/
theorem reporting_setAccepting (id : StateId) (accepting : Bool) :
    Reporting (bench.setAccepting id accepting) := by
  apply (reporting_requireIdle .setAccepting).bind
  intro _
  refine Reporting.bind (reporting_mapError ?_) fun model => reporting_ok _
  intro error refused
  unfold Automaton.setAccepting at refused
  rcases bind_eq_error_iff.mp refused with unknown | ⟨current, -, changed⟩
  · exact isReported_of_state unknown
  · split at changed <;> cases changed

/-- An automaton refuses a transition on a usable symbol because of its states or a conflict. -/
theorem isReported_of_addTransition {source target : StateId} {symbol : Symbol}
    (usable : literalFault? symbol = none)
    (refused : model.addTransition source target symbol = .error error) :
    (WorkbenchError.automaton error).isReported = true := by
  unfold Automaton.addTransition at refused
  rw [requireLiteral_eq_ok_iff.mpr usable] at refused
  rcases bind_eq_error_iff.mp refused with unknown | ⟨sourceState, -, refused⟩
  · exact isReported_of_state unknown
  rcases bind_eq_error_iff.mp refused with unknown | ⟨known, -, refused⟩
  · exact isReported_of_requireState unknown
  cases found : model.target? source symbol with
  | none =>
    simp only [found] at refused
    cases refused
  | some existing =>
    simp only [found] at refused
    rcases bind_eq_error_iff.mp refused with ⟨⟨⟩⟩ | ⟨passed, -, refused⟩
    split at refused
    · cases refused
    · rcases bind_eq_error_iff.mp refused with unknown | ⟨existingState, -, conflict⟩
      · exact isReported_of_state unknown
      · obtain rfl := Except.error.inj conflict
        rfl

theorem reporting_addTransition {source target : StateId} {symbol : Symbol}
    (usable : literalFault? symbol = none) :
    Reporting (bench.addTransition source target symbol) := by
  apply (reporting_requireIdle .addTransition).bind
  intro _
  refine Reporting.bind (reporting_mapError ?_) fun model => reporting_ok _
  exact fun error refused => isReported_of_addTransition usable refused

end Workbench

namespace Page

namespace Session

variable {session : Session} {error : WorkbenchError}

/-- A stage is refused if its button acts and the workbench refuses the change. -/
theorem isReported_of_stage {stage : Stage} {acts : Bool}
    {change : Workbench → Except WorkbenchError Workbench}
    (staged : stage = session.stage acts change) (refused : stage.refusal = some error)
    (reporting : acts = true → Workbench.Reporting (change session.bench)) :
    error.isReported = true := by
  subst staged
  cases acts with
  | false => cases refused
  | true =>
    apply reporting rfl
    unfold stage edit report at refused
    cases changed : change session.bench with
    | ok bench =>
      rw [changed] at refused
      cases refused
    | error same =>
      rw [changed] at refused
      exact congrArg Except.error (Option.some.inj refused)

theorem isReported_of_finding {clears checks : Bool}
    (refused : (session.finding clears checks).refusal = some error) : error.isReported = true := by
  unfold finding at refused
  dsimp only at refused
  split at refused
  · exact Workbench.reporting_startRun _ error (checkInput_of_refused refused).1
  · cases refused

theorem isReported_of_callback {toolkit : Toolkit} {entry : Entry} {due : Bool}
    (refused : (session.callback toolkit entry due).refusal = some error) :
    error.isReported = true :=
  (importRefusal_of_callback refused).isReported

end Session

namespace Course

variable {session : Session} {toolkit : Toolkit} {entry : Entry} {stages : Stages}

/-- A visit goes on after the button for transitions, unless it acted without a usable symbol. -/
theorem failure?_of_usable (course : Course session toolkit entry stages)
    (usable : stages.joined.acted = true →
      literalFault? (stages.selected.symbol.getD "") = none) : stages.joined.failure? = none := by
  cases refused : stages.joined.refusal with
  | none => rw [Stage.failure?, refused, Option.filter_none]
  | some error =>
    have reported : error.isReported = true :=
      Session.isReported_of_stage course.joined refused fun acted =>
        Workbench.reporting_addTransition (usable acted)
    rw [Stage.failure?, refused, Option.filter_some, reported]
    rfl

/-- Whatever else is refused on a visit is reported. -/
theorem isReported_of_refusal (course : Course session toolkit entry stages) {control : Control}
    (other : control ≠ .addTransition) {error : WorkbenchError}
    (refused : stages.refusalOf control = some error) : error.isReported = true := by
  have early (refused : stages.early.refusal = some error) : error.isReported = true :=
    Session.isReported_of_callback (course.early ▸ refused)
  have late (refused : stages.late.refusal = some error) : error.isReported = true :=
    Session.isReported_of_callback (course.late ▸ refused)
  cases control with
  | build | loadDefault =>
    rcases Option.or_eq_some_iff.mp refused with here | ⟨-, there⟩
    · exact early here
    · exact late there
  | reset =>
    exact Session.isReported_of_stage course.reset refused fun _ => Workbench.reporting_reset.map _
  | undo =>
    exact Session.isReported_of_stage course.undone refused fun _ => Workbench.reporting_undo.map _
  | addState =>
    exact Session.isReported_of_stage course.stateAdded refused fun _ =>
      (Workbench.reporting_addState false).map _
  | addAcceptingState =>
    exact Session.isReported_of_stage course.acceptingAdded refused fun _ =>
      (Workbench.reporting_addState true).map _
  | startAccepting =>
    exact Session.isReported_of_stage course.startAccepted refused fun _ =>
      Workbench.reporting_setAccepting _ true
  | addTransition => exact absurd rfl other
  | toggleAccepting =>
    exact Session.isReported_of_stage course.toggled refused fun _ =>
      Workbench.reporting_setAccepting _ _
  | check =>
    change stages.finding.refusal = some error at refused
    rw [course.finding] at refused
    exact Session.isReported_of_finding refused
  | _ => cases refused

end Course

end Page

end Acceptor
