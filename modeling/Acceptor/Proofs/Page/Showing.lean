import Acceptor.Proofs.Page.Failure
import Acceptor.Proofs.Run.Naming
import Acceptor.Proofs.Workbench.Contents

/-!
# The verdict that a page shows

A page remembers a verdict from one visit to the next, while buttons, callbacks and other visitors
of its workbench come in between. `Current` is what all of them preserve: the automata on the
workbench are orderly, and a verdict that is remembered is the one on the last input for the
automaton that is there now. The results are then looked up in the automaton that they are about,
and no lookup fails. All this holds for every toolkit, so whichever buttons act and in whatever
order the callbacks are made.
-/

namespace Acceptor.Page

/-- What happens to a session: a visit of its page, or what others who use the same workbench do
with runs. They keep one on its way, let go of it, or go on with any of them. -/
inductive Event where
  | visit (entry : Entry)
  | hold (text : Option String)
  | release
  | follow (number : Nat) (command : RunCommand Empty)

namespace Session

/-- The session after something happened to it. -/
def after (session : Session) (toolkit : Toolkit) : Event → Session
  | .visit entry => (session.visit toolkit entry).1
  | .hold text => (session.hold text).toOption.getD session
  | .release => session.release
  | .follow number command =>
    { session with bench := (session.bench.perform (.onRun number command)).2 }

/-- The session after some events. -/
def afterAll (session : Session) (toolkit : Toolkit) (events : List Event) : Session :=
  events.foldl (fun session event => session.after toolkit event) session

variable {session : Session} (toolkit : Toolkit)

/-- Going on with a run leaves the automaton as it is. -/
theorem acts_follow (number : Nat) (command : RunCommand Empty) :
    Acts session (session.after toolkit (.follow number command)) :=
  ⟨⟨[.onRun number command], rfl⟩,
    .kept (session.bench.automata_onRun number command).1 rfl rfl⟩

theorem acts_hold (text : Option String) : Acts session (session.after toolkit (.hold text)) := by
  change Acts session ((session.hold text).toOption.getD session)
  unfold hold
  cases started : session.bench.startRun text with
  | error error => exact .refl session
  | ok answer =>
    obtain ⟨run, bench⟩ := answer
    refine ⟨⟨[.startRun text], ?_⟩, .kept ?_ rfl rfl⟩
    · exact (Workbench.perform_startRun started).symm
    · obtain ⟨idle, rfl, rfl⟩ := Workbench.startRun_eq_ok_iff.mp started
      rfl

theorem acts_release : Acts session (session.after toolkit .release) := by
  unfold after release
  dsimp only
  split
  · exact .refl session
  · next reply bench closed =>
    obtain ⟨number, held, answered⟩ := Option.bind_eq_some_iff.mp closed
    obtain ⟨run, found, same⟩ := Option.map_eq_some_iff.mp answered
    cases same
    refine ⟨⟨[.onRun number closing], ?_⟩, .kept rfl rfl rfl⟩
    exact (Workbench.perform_onRun found closing).symm

/-- What every event preserves: the automata on the workbench are orderly, and the last verdict is
the one on the last input. -/
structure Current (session : Session) : Prop where
  orderly : ∀ shown ∈ session.bench.timeline, shown.Orderly
  verdict : ∀ verdict ∈ session.lastVerdict,
    verdict = session.bench.check (some session.lastInput)

namespace Current

variable {before after : Session}

theorem valid (current : session.Current) : session.bench.model.Valid :=
  (current.orderly _ List.mem_cons_self).toValid

theorem acts (current : before.Current) (acts : Acts before after) : after.Current where
  orderly := by
    obtain ⟨commands, reached⟩ := acts.commands
    rw [reached]
    exact Workbench.timeline_induction Automaton.Orderly (fun _ _ made => made.orderly) commands
      current.orderly
  verdict := by
    intro verdict remembered
    cases acts.recalls with
    | forgotten forgotten =>
      rw [forgotten] at remembered
      cases remembered
    | kept model same input =>
      rw [same] at remembered
      rw [current.verdict verdict remembered, input, Workbench.check, Workbench.check, model]
    | found found =>
      rw [found] at remembered
      exact (Option.some.inj remembered).symm

/-- A visit preserves it. -/
theorem visit (current : session.Current) (toolkit : Toolkit) (entry : Entry) :
    (session.visit toolkit entry).1.Current := by
  have course := session.course toolkit entry
  have toggled := current.acts course.acts_toggled
  exact (current.acts (course.acts_last toggled.valid)).acts (.of_same rfl rfl rfl)

/-- One event preserves it. -/
theorem event (current : session.Current) (toolkit : Toolkit) (event : Event) :
    (session.after toolkit event).Current := by
  cases event with
  | visit entry => exact current.visit toolkit entry
  | hold text => exact current.acts (acts_hold toolkit text)
  | release => exact current.acts (acts_release toolkit)
  | follow number command => exact current.acts (acts_follow toolkit number command)

theorem events (current : session.Current) (toolkit : Toolkit) (events : List Event) :
    (session.afterAll toolkit events).Current := by
  induction events generalizing session with
  | nil => exact current
  | cons event rest inductionHypothesis => exact inductionHypothesis (current.event toolkit event)

end Current

theorem current_start : start.Current where
  orderly := by
    intro shown member
    obtain rfl := List.mem_singleton.mp member
    exact Automaton.orderly_empty
  verdict := nofun

/-- A session has no verdict, or the one on the last input for the automaton that is there. -/
theorem Current.lastVerdict_eq (current : session.Current) :
    session.lastVerdict = none ∨ session.lastVerdict = some (session.bench.model.check
      Automaton.emptyInputAccepted (inputSymbols session.lastInput)) := by
  cases remembered : session.lastVerdict with
  | none => exact .inl rfl
  | some verdict => exact .inr (congrArg some (current.verdict verdict remembered))

/-- The verdict of a session is about states of the automaton that is there. -/
theorem Current.within (current : session.Current) {verdict : Verdict}
    (remembered : verdict ∈ session.lastVerdict) : verdict.Within session.bench.model := by
  rw [current.verdict verdict remembered]
  exact Verdict.within_check current.valid _ _

/-- The results of a session can be shown. -/
theorem Current.exists_results (current : session.Current) :
    ∃ shown, session.results = .ok shown := by
  unfold results
  cases remembered : session.lastVerdict with
  | none => exact ⟨_, rfl⟩
  | some verdict =>
    have within := current.within remembered
    obtain ⟨sentence, described⟩ := within.exists_describe
    simp only [described, within.trace, Automaton.label_of_known within.state]
    split_ifs <;> exact ⟨_, rfl⟩

end Session

/-- After a visit, a session and its page show what is true of the automaton that is there. -/
structure Truthful (toolkit : Toolkit) (stages : Stages) (session : Session) (page : Page) :
    Prop where
  /-- The verdict that is remembered, if there is one, is the one on the last input for the
  automaton that is there. -/
  verdict : session.lastVerdict = none ∨ session.lastVerdict =
    some (session.bench.model.check Automaton.emptyInputAccepted (inputSymbols session.lastInput))
  /-- There is one after the button for a check has answered, at once or, if no other run is on its
  way, after its run was shown, unless there are unknown symbols or a callback comes last. -/
  remembered : toolkit.callsFirst = true → stages.checks = true →
    stages.toggled.session.animate = false ∨ stages.toggled.session.bench.busy = false →
      stages.toggled.session.unknownSymbols = [] →
        session.lastVerdict = some (stages.toggled.session.bench.check
            (some stages.toggled.session.inputString)) ∧
          session.lastInput = stages.toggled.session.inputString
  /-- It speaks about states of this automaton, -/
  within : ∀ verdict ∈ session.lastVerdict, verdict.state ∈ session.bench.model.ids ∧
    ∀ step ∈ verdict.steps,
      step.source ∈ session.bench.model.ids ∧ step.target ∈ session.bench.model.ids
  /-- so the sentence, the table and the label of the final state can be looked up, -/
  described : ∀ verdict ∈ session.lastVerdict,
    ∃ sentence, verdict.describe session.bench.model = .ok sentence
  traced : ∀ verdict ∈ session.lastVerdict, ∃ rows, verdict.trace session.bench.model = .ok rows
  named : ∀ verdict ∈ session.lastVerdict,
    ∃ label, session.bench.model.label verdict.state = .ok label
  /-- the results that the page shows as well. -/
  results : ∃ results, stages.shown.results = .ok results
  /-- Nothing but a transition can be refused without a report, -/
  reported : ∀ control, control ≠ .addTransition → ∀ error,
    stages.refusalOf control = some error → error.isReported = true
  /-- and the page is cut short by nothing else than a transition without a usable symbol, -/
  complete : (stages.joined.acted = true →
    literalFault? (stages.selected.symbol.getD "") = none) → page.failure = none
  /-- for which a careful toolkit does not ask. -/
  whole : toolkit.Careful → page.failure = none

section Visit

variable {session : Session} {toolkit : Toolkit} {entry : Entry}

theorem Session.Current.toggled (current : session.Current) (toolkit : Toolkit) (entry : Entry) :
    (session.stages toolkit entry).toggled.session.Current :=
  current.acts (session.course toolkit entry).acts_toggled

/-- What the page shows in the end is current. -/
theorem Session.Current.shown (current : session.Current) (toolkit : Toolkit) (entry : Entry) :
    (session.stages toolkit entry).shown.Current :=
  current.acts ((session.course toolkit entry).acts_shown (current.toggled toolkit entry).valid)

/-- What a check remembers is there after the visit if no callback is made in between. -/
theorem remembered_of_visit (current : session.Current) (first : toolkit.callsFirst = true)
    (checks : (session.stages toolkit entry).checks = true)
    (free : (session.stages toolkit entry).toggled.session.animate = false ∨
      (session.stages toolkit entry).toggled.session.bench.busy = false)
    (known : (session.stages toolkit entry).toggled.session.unknownSymbols = []) :
    (session.visit toolkit entry).1.lastVerdict =
        some ((session.stages toolkit entry).toggled.session.bench.check
          (some (session.stages toolkit entry).toggled.session.inputString)) ∧
      (session.visit toolkit entry).1.lastInput =
        (session.stages toolkit entry).toggled.session.inputString := by
  change (session.stages toolkit entry).last.lastVerdict = _ ∧
    (session.stages toolkit entry).last.lastInput = _
  have course := session.course toolkit entry
  have last : (session.stages toolkit entry).last = (session.stages toolkit entry).shown := by
    rw [Stages.last, course.late, first, Bool.not_true, Bool.and_false]
    rfl
  rw [last, Stages.shown, course.finding, checks]
  exact Session.remembered_of_finding (current.toggled toolkit entry).valid free known _

/-- The results of a visit do not fail, so the page is built to its end if the visit goes on after
the button for transitions. -/
theorem failure_of_visit (current : session.Current)
    (goesOn : (session.stages toolkit entry).joined.failure? = none) :
    (session.visit toolkit entry).2.failure = none := by
  obtain ⟨results, shown⟩ := (current.shown toolkit entry).exists_results
  change (session.stages toolkit entry).page.failure = none
  rw [Stages.page]
  simp only [goesOn, shown]

/-- A careful toolkit does not ask for a transition without a usable symbol: the button for
transitions is disabled if there is none, and the symbol is one that is offered. -/
theorem usable_of_careful (careful : toolkit.Careful) (current : session.Current)
    (acted : (session.stages toolkit entry).joined.acted = true) :
    literalFault? ((session.stages toolkit entry).selected.symbol.getD "") = none := by
  have course := session.course toolkit entry
  have valid := (current.acts course.acts_selected).valid
  have enabled : ((session.stages toolkit entry).busy ||
      (session.stages toolkit entry).selected.symbol.isNone) = false :=
    careful.enabled_of_answers _ acted
  cases chosen : (session.stages toolkit entry).selected.symbol with
  | none =>
    rw [chosen, Option.isNone_none, Bool.or_true] at enabled
    cases enabled
  | some symbol =>
    have offered : symbol ∈ (session.stages toolkit entry).selected.bench.model.alphabet :=
      careful.mem_of_chooses _ _ symbol chosen
    exact valid.alphabetUsable symbol offered

end Visit

/-- Whatever happened to a session, a visit shows a verdict of the automaton on the page or none. -/
theorem truthful_of_visit (toolkit : Toolkit) (events : List Event) (entry : Entry) :
    Truthful toolkit ((Session.start.afterAll toolkit events).stages toolkit entry)
      ((Session.start.afterAll toolkit events).visit toolkit entry).1
      ((Session.start.afterAll toolkit events).visit toolkit entry).2 := by
  have before := Session.current_start.events toolkit events
  have after := before.visit toolkit entry
  have course := (Session.start.afterAll toolkit events).course toolkit entry
  exact {
    verdict := after.lastVerdict_eq
    remembered := remembered_of_visit before
    within := fun _ remembered => ⟨(after.within remembered).state, (after.within remembered).steps⟩
    described := fun _ remembered => (after.within remembered).exists_describe
    traced := fun _ remembered => ⟨_, (after.within remembered).trace⟩
    named := fun _ remembered => ⟨_, Automaton.label_of_known (after.within remembered).state⟩
    results := (before.shown toolkit entry).exists_results
    reported := fun _ other _ refused => course.isReported_of_refusal other refused
    complete := fun usable => failure_of_visit before (course.failure?_of_usable usable)
    whole := fun careful =>
      failure_of_visit before (course.failure?_of_usable (usable_of_careful careful before)) }

/-- A toolkit whose disabled buttons answer lets a check act while another visitor keeps a run on
its way. What it finds is remembered all the same. -/
example : (Session.start.afterAll .obliging [
      .hold (some "C"),
      .visit { Entry.none with inputString := some "A", pressed := some .check }]).lastVerdict =
    some ⟨.stuck 0 "A", 1, []⟩ := by
  decide +kernel

end Acceptor.Page
