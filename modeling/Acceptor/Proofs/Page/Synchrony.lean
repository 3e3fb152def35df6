import Acceptor.Proofs.Page.Refusal

/-!
# The text area after edits

After an edit the text area holds the specification of the automaton on the page, whatever was typed
into it before (`inStep_of_edit`). A session is settled if its text area holds what would be
exported and no verdict is remembered. An edit that succeeds makes it so, and everything that
follows in the same visit keeps it so, since no other button was pressed. That something is exported
at all, and read back as the same automaton, is because all automata on the workbench are orderly; a
later import of the text therefore changes nothing, and going back still leads where it led before.

The buttons that import a text are spoken about only as far as they import this one.
-/

namespace Acceptor.Page

namespace Session

variable {session : Session} {acts : Bool} {change : Workbench → Except WorkbenchError Workbench}

/-- What would be exported, if anything, stands in the text area, and no verdict is remembered. -/
structure Settled (session : Session) : Prop where
  synchronous : ∀ text, session.bench.exportSpec = .ok text → session.specText = text
  forgotten : session.lastVerdict = none

/-- A stage whose button does not act keeps the session it found. -/
theorem stage_of_not_acts (idle : acts = false) :
    session.stage acts change = ⟨session, false, none⟩ := by
  subst idle
  rfl

/-- Bringing the text area up to date settles a session without a verdict. -/
theorem settled_syncSpec (forgotten : session.lastVerdict = none) : session.syncSpec.Settled := by
  unfold syncSpec
  split
  · next written exported =>
    exact ⟨fun text again => Except.ok.inj (exported.symm.trans again), forgotten⟩
  · next error refused =>
    exact ⟨fun text exported => absurd (refused.symm.trans exported) nofun, forgotten⟩

/-- An edit that succeeds is followed by the text area. -/
theorem settled_of_edit {result : Except WorkbenchError Workbench}
    (succeeded : (session.edit result).2 = none) : (session.edit result).1.Settled := by
  cases result with
  | ok bench => exact settled_syncSpec rfl
  | error error => cases succeeded

theorem settled_of_stage {stage : Stage} (staged : stage = session.stage acts change)
    (asked : acts = true) (succeeded : stage.refusal = none) : stage.session.Settled := by
  subst staged asked
  exact settled_of_edit succeeded

namespace Settled

/-- An edit button keeps a session settled, whether it acts, is refused or neither. -/
theorem stage (settled : session.Settled) {stage : Stage}
    (staged : stage = session.stage acts change) : stage.session.Settled := by
  subst staged
  cases acts with
  | false => exact settled
  | true =>
    change (session.edit (change session.bench)).1.Settled
    cases change session.bench with
    | ok bench => exact settled_syncSpec rfl
    | error error => exact settled

theorem of_same {after : Session} (settled : session.Settled)
    (model : after.bench.model = session.bench.model) (text : after.specText = session.specText)
    (verdict : after.lastVerdict = session.lastVerdict) : after.Settled where
  synchronous := by
    intro exported written
    rw [Workbench.exportSpec, model] at written
    exact text.trans (settled.synchronous exported written)
  forgotten := verdict.trans settled.forgotten

end Settled

/-- No callback is made on a visit for which another button is pressed. -/
theorem callback_of_presses {toolkit : Toolkit} (lawful : toolkit.Lawful) {entry : Entry}
    {button : Control} (presses : entry.presses button = true) (notBuild : button ≠ .build)
    (notDefault : button ≠ .loadDefault) (due : Bool) :
    session.callback toolkit entry due = ⟨session, false, none⟩ := by
  rcases callback_cases lawful session entry due with
    noCall | ⟨pressesBuild, -⟩ | ⟨pressesDefault, -⟩
  · exact noCall
  · exact absurd (Entry.eq_of_presses presses pressesBuild) notBuild
  · exact absurd (Entry.eq_of_presses presses pressesDefault) notDefault

end Session

/-- The buttons that edit the automaton. -/
def Control.edits : List Control :=
  [.reset, .undo, .addState, .addAcceptingState, .startAccepting, .addTransition, .toggleAccepting]

namespace Course

variable {session : Session} {toolkit : Toolkit} {entry : Entry} {stages : Stages}

/-- With a lawful toolkit no other button acts than the one that is pressed. -/
theorem not_acts_of_presses (course : Course session toolkit entry stages)
    (lawful : toolkit.Lawful) {button : Control} (presses : entry.presses button = true)
    {control : Control} (other : control ≠ button) : stages.acts control = false :=
  Bool.eq_false_of_not_eq_true fun acts =>
    other (Entry.eq_of_presses (course.presses_of_acts lawful acts) presses)

/-- After an edit that succeeds, a visit keeps the session settled until the check. -/
theorem settled_toggled (course : Course session toolkit entry stages) {button : Control}
    (edits : button ∈ Control.edits) (acts : stages.acts button = true)
    (succeeded : stages.refusalOf button = none) : stages.toggled.session.Settled := by
  -- What follows each of the buttons.
  have afterJoined (settled : stages.joined.session.Settled) := settled.stage course.toggled
  have afterStartAccepted (settled : stages.startAccepted.session.Settled) :
      stages.toggled.session.Settled := by
    have selected : stages.selected.Settled := by
      rw [course.selected]
      exact settled.of_same rfl rfl rfl
    exact afterJoined (selected.stage course.joined)
  have afterAcceptingAdded (settled : stages.acceptingAdded.session.Settled) :=
    afterStartAccepted (settled.stage course.startAccepted)
  have afterStateAdded (settled : stages.stateAdded.session.Settled) :=
    afterAcceptingAdded (settled.stage course.acceptingAdded)
  have afterUndone (settled : stages.undone.session.Settled) :=
    afterStateAdded (settled.stage course.stateAdded)
  have afterReset (settled : stages.reset.session.Settled) :=
    afterUndone (settled.stage course.undone)
  cases button with
  | reset => exact afterReset (Session.settled_of_stage course.reset acts succeeded)
  | undo => exact afterUndone (Session.settled_of_stage course.undone acts succeeded)
  | addState => exact afterStateAdded (Session.settled_of_stage course.stateAdded acts succeeded)
  | addAcceptingState =>
    exact afterAcceptingAdded (Session.settled_of_stage course.acceptingAdded acts succeeded)
  | startAccepting =>
    exact afterStartAccepted (Session.settled_of_stage course.startAccepted acts succeeded)
  | addTransition => exact afterJoined (Session.settled_of_stage course.joined acts succeeded)
  | toggleAccepting => exact Session.settled_of_stage course.toggled acts succeeded
  | _ => exact absurd edits (by decide)

/-- After an edit that succeeds, a visit keeps the session settled until its end. -/
theorem settled_of_edit (course : Course session toolkit entry stages) (lawful : toolkit.Lawful)
    {button : Control} (edits : button ∈ Control.edits) (acts : stages.acts button = true)
    (succeeded : stages.refusalOf button = none) : stages.last.Settled := by
  have presses := course.presses_of_acts lawful acts
  have other (control : Control) (noEdit : control ∉ Control.edits) : control ≠ button :=
    fun same => noEdit (same ▸ edits)
  have checks : stages.checks = false :=
    course.not_acts_of_presses lawful presses (other .check (by decide))
  have clears : stages.clears = false :=
    course.not_acts_of_presses lawful presses (other .resetAnimation (by decide))
  have shown : stages.shown = stages.toggled.session := by
    rw [Stages.shown, course.finding, checks, clears]
    rfl
  have last : stages.last = stages.shown := by
    rw [Stages.last, course.late, Session.callback_of_presses lawful presses
      (other .build (by decide)).symm (other .loadDefault (by decide)).symm]
  rw [last, shown]
  exact course.settled_toggled edits acts succeeded

end Course

/-- What others who use the same workbench do, as opposed to a visit. -/
def Event.Elsewhere : Event → Prop
  | .visit _ => False
  | .hold _ | .release | .follow .. => True

/-- Two sessions have the same automata on their workbenches, the same text in their text areas and
the same last verdict. -/
structure Undisturbed (before after : Session) : Prop where
  model : after.bench.model = before.bench.model
  history : after.bench.history = before.bench.history
  specText : after.specText = before.specText
  lastVerdict : after.lastVerdict = before.lastVerdict

theorem Undisturbed.trans {before between after : Session} (first : Undisturbed before between)
    (second : Undisturbed between after) : Undisturbed before after :=
  ⟨second.model.trans first.model, second.history.trans first.history,
    second.specText.trans first.specText, second.lastVerdict.trans first.lastVerdict⟩

/-- What others do with runs disturbs no automaton, no text and no verdict. -/
theorem undisturbed_of_elsewhere (session : Session) (toolkit : Toolkit) {event : Event}
    (elsewhere : event.Elsewhere) : Undisturbed session (session.after toolkit event) := by
  cases event with
  | visit entry => exact elsewhere.elim
  | hold text =>
    change Undisturbed session ((session.hold text).toOption.getD session)
    unfold Session.hold
    cases started : session.bench.startRun text with
    | error error => exact ⟨rfl, rfl, rfl, rfl⟩
    | ok answer =>
      obtain ⟨run, bench⟩ := answer
      obtain ⟨-, rfl, rfl⟩ := Workbench.startRun_eq_ok_iff.mp started
      exact ⟨rfl, rfl, rfl, rfl⟩
  | release =>
    unfold Session.after Session.release
    dsimp only
    split
    · exact ⟨rfl, rfl, rfl, rfl⟩
    · next reply bench closed =>
      obtain ⟨number, -, answered⟩ := Option.bind_eq_some_iff.mp closed
      obtain ⟨run, -, same⟩ := Option.map_eq_some_iff.mp answered
      cases same
      exact ⟨rfl, rfl, rfl, rfl⟩
  | follow number command =>
    have automata := session.bench.automata_onRun number command
    exact ⟨automata.1, automata.2, rfl, rfl⟩

theorem undisturbed_of_allElsewhere (session : Session) (toolkit : Toolkit) {events : List Event}
    (elsewhere : ∀ event ∈ events, event.Elsewhere) :
    Undisturbed session (session.afterAll toolkit events) := by
  induction events generalizing session with
  | nil => exact ⟨rfl, rfl, rfl, rfl⟩
  | cons event rest inductionHypothesis =>
    obtain ⟨here, others⟩ := List.forall_mem_cons.mp elsewhere
    exact (undisturbed_of_elsewhere session toolkit here).trans (inductionHypothesis _ others)

/-- No button acts while the page is built. -/
structure Stages.Quiet (stages : Stages) (toolkit : Toolkit) : Prop where
  reset : stages.reset = ⟨stages.opened, false, none⟩
  undone : stages.undone = ⟨stages.opened, false, none⟩
  stateAdded : stages.stateAdded = ⟨stages.opened, false, none⟩
  acceptingAdded : stages.acceptingAdded = ⟨stages.opened, false, none⟩
  startAccepted : stages.startAccepted = ⟨stages.opened, false, none⟩
  selected : stages.selected = stages.opened.select toolkit
  joined : stages.joined = ⟨stages.selected, false, none⟩
  toggled : stages.toggled = ⟨stages.selected, false, none⟩
  finding : stages.finding = ⟨stages.selected, stages.selected.plainDrawing, [], none⟩

/-- A page is complete and tells no error. -/
def TellsNoError (page : Page) : Prop :=
  page.failure = none ∧ ∀ body, Element.text .error body ∉ page.main ++ page.sidebar

section Quiet

variable {session : Session} {toolkit : Toolkit} {entry : Entry} {stages : Stages}

/-- With a lawful toolkit no button acts while the page is built for a visit for which the button
that reads the text area is pressed. -/
theorem Course.quiet_of_build (course : Course session toolkit entry stages)
    (lawful : toolkit.Lawful) (presses : entry.presses .build = true) : stages.Quiet toolkit := by
  have idle (control : Control) (other : control ≠ .build) : stages.acts control = false :=
    course.not_acts_of_presses lawful presses other
  have reset : stages.reset = ⟨stages.opened, false, none⟩ :=
    course.reset.trans (Session.stage_of_not_acts (idle .reset (by decide)))
  have undone : stages.undone = ⟨stages.reset.session, false, none⟩ :=
    course.undone.trans (Session.stage_of_not_acts (idle .undo (by decide)))
  have stateAdded : stages.stateAdded = ⟨stages.undone.session, false, none⟩ :=
    course.stateAdded.trans (Session.stage_of_not_acts (idle .addState (by decide)))
  have acceptingAdded : stages.acceptingAdded = ⟨stages.stateAdded.session, false, none⟩ :=
    course.acceptingAdded.trans (Session.stage_of_not_acts (idle .addAcceptingState (by decide)))
  have startAccepted : stages.startAccepted = ⟨stages.acceptingAdded.session, false, none⟩ :=
    course.startAccepted.trans (Session.stage_of_not_acts (idle .startAccepting (by decide)))
  have joined : stages.joined = ⟨stages.selected, false, none⟩ :=
    course.joined.trans (Session.stage_of_not_acts (idle .addTransition (by decide)))
  have toggled : stages.toggled = ⟨stages.joined.session, false, none⟩ :=
    course.toggled.trans (Session.stage_of_not_acts (idle .toggleAccepting (by decide)))
  have checks : stages.checks = false := idle .check (by decide)
  have clears : stages.clears = false := idle .resetAnimation (by decide)
  have finding : stages.finding =
      ⟨stages.toggled.session, stages.toggled.session.plainDrawing, [], none⟩ := by
    rw [course.finding, checks, clears]
    rfl
  rw [undone, reset] at stateAdded
  rw [stateAdded] at acceptingAdded
  rw [acceptingAdded] at startAccepted
  rw [reset] at undone
  rw [toggled, joined] at finding
  rw [joined] at toggled
  have selected : stages.selected = stages.opened.select toolkit := by
    rw [course.selected, startAccepted]
  exact ⟨reset, undone, stateAdded, acceptingAdded, startAccepted, selected, joined, toggled,
    finding⟩

/-- The page of a quiet visit tells no error if no callback was refused and there is no verdict. -/
theorem Stages.Quiet.tellsNoError (quiet : stages.Quiet toolkit)
    (early : stages.early.refusal = none) (late : stages.late.refusal = none)
    (forgotten : stages.opened.lastVerdict = none) : stages.page.TellsNoError := by
  have noVerdict : stages.shown.lastVerdict = none := by
    rw [Stages.shown, quiet.finding, quiet.selected]
    exact forgotten
  have results : stages.shown.results =
      .ok [.say .info "Build or load an automaton, then click 'Check string'."] := by
    rw [Session.results, noVerdict]
  have goesOn : stages.joined.failure? = none := by
    rw [quiet.joined]
    rfl
  have page : stages.page = ⟨stages.heading ++ stages.diagram ++
      [.say .info "Build or load an automaton, then click 'Check string'."] ++
        stages.specification,
      stages.editButtons ++ stages.selections ++ stages.toggling ++ stages.checkControls,
      none⟩ := by
    rw [Stages.page, goesOn, results]
  rw [page]
  refine ⟨rfl, fun body => ?_⟩
  simp [Stages.heading, Stages.diagram, Stages.specification, Stages.editButtons,
    Stages.selections, Stages.toggling, Stages.checkControls, Stages.notes, early, late,
    quiet.reset, quiet.undone, quiet.stateAdded, quiet.acceptingAdded, quiet.startAccepted,
    quiet.joined, quiet.toggled, quiet.finding, Element.say]

end Quiet

section InStep

variable {session : Session} {toolkit : Toolkit} {entry : Entry}

/-- Where the text area specifies the automaton on an idle workbench and there is no verdict,
reading it changes nothing and is not refused. -/
theorem callback_of_inStep (session : Session) (lawful : toolkit.Lawful)
    (presses : entry.presses .build = true) (idle : session.bench.busy = false)
    (read : Spec.parse session.specText = .ok session.bench.model)
    (forgotten : session.lastVerdict = none) (due : Bool) :
    (session.callback toolkit entry due).session = session ∧
      (session.callback toolkit entry due).refusal = none := by
  have imported : session.bench.importSpec (some session.specText) =
      .ok (session.bench.model, session.bench) :=
    Workbench.importSpec_eq_ok_iff.mpr ⟨idle, read, (Workbench.commit_of_same (.refl _)).symm⟩
  have built : session.buildFromSpec = (session, none) := by
    have same : { session with lastVerdict := none } = session := by rw [← forgotten]
    rw [Session.buildFromSpec, imported]
    exact congrArg (·, none) same
  rcases Session.callback_cases lawful session entry due with
    noCall | ⟨-, called⟩ | ⟨pressesDefault, -⟩
  · rw [noCall]
    exact ⟨rfl, rfl⟩
  · rw [called, built]
    exact ⟨rfl, rfl⟩
  · have sameButton : Control.build = Control.loadDefault :=
      Entry.eq_of_presses presses pressesDefault
    cases sameButton

/-- A visit that reads such a text area, with nothing else typed into it, leaves the workbench as it
is and tells no error. -/
theorem visit_of_inStep (lawful : toolkit.Lawful) (idle : session.bench.busy = false)
    (read : Spec.parse session.specText = .ok session.bench.model)
    (forgotten : session.lastVerdict = none) (pressed : entry.pressed = some .build)
    (untouched : entry.specText = none) :
    (session.visit toolkit entry).2.TellsNoError ∧
      (session.visit toolkit entry).1.bench = session.bench := by
  have presses : entry.presses .build = true := by
    rw [Entry.presses, pressed]
    rfl
  have course := session.course toolkit entry
  have quiet := course.quiet_of_build lawful presses
  have entered : Spec.parse (session.enter toolkit entry).specText = .ok session.bench.model := by
    rw [Session.enter, untouched]
    exact read
  have early : (session.stages toolkit entry).opened = session.enter toolkit entry ∧
      (session.stages toolkit entry).early.refusal = none := by
    rw [Stages.opened, course.early]
    exact callback_of_inStep (session.enter toolkit entry) lawful presses idle entered forgotten _
  have shown : (session.stages toolkit entry).shown =
      (session.enter toolkit entry).select toolkit := by
    rw [Stages.shown, quiet.finding, quiet.selected, early.1]
  have late : (session.stages toolkit entry).last = (session.stages toolkit entry).shown ∧
      (session.stages toolkit entry).late.refusal = none := by
    rw [Stages.last, course.late, shown]
    exact callback_of_inStep ((session.enter toolkit entry).select toolkit) lawful presses idle
      entered forgotten _
  refine ⟨quiet.tellsNoError early.2 late.2 ?_, ?_⟩
  · rw [early.1]
    exact forgotten
  · change (session.stages toolkit entry).last.bench = session.bench
    rw [late.1, shown]
    rfl

/-- The text area of a session follows the automaton on its workbench. -/
structure InStep (toolkit : Toolkit) (session : Session) : Prop where
  /-- It holds what is written for the automaton, and the same automaton is read from it. -/
  written : Spec.write session.bench.model = .ok session.specText
  read : Spec.parse session.specText = .ok session.bench.model
  /-- If the next visit reads it on an idle workbench, whatever others have done with runs before,
  then no error is told and the workbench stays as it is, with the automaton and all earlier
  ones. -/
  rebuilt : ∀ events, (∀ event ∈ events, event.Elsewhere) →
    (session.afterAll toolkit events).bench.busy = false →
      ∀ entry : Entry, entry.pressed = some .build → entry.specText = none →
        let next := (session.afterAll toolkit events).visit toolkit entry
        next.2.TellsNoError ∧ next.1.bench = (session.afterAll toolkit events).bench ∧
          next.1.bench.model = session.bench.model ∧ next.1.bench.history = session.bench.history

/-- A settled session whose automata are orderly is in step. -/
theorem Session.Settled.inStep (settled : session.Settled) (lawful : toolkit.Lawful)
    (current : session.Current) : InStep toolkit session := by
  obtain ⟨text, exported, read⟩ :=
    Workbench.exists_exported (current.orderly _ List.mem_cons_self)
  obtain rfl := settled.synchronous text exported
  refine ⟨mapError_eq_ok_iff.mp exported, read, ?_⟩
  intro events elsewhere idle entry pressed untouched next
  have undisturbed := undisturbed_of_allElsewhere session toolkit elsewhere
  have forgotten := undisturbed.lastVerdict.trans settled.forgotten
  rw [← undisturbed.specText, ← undisturbed.model] at read
  obtain ⟨tellsNoError, bench⟩ := visit_of_inStep lawful idle read forgotten pressed untouched
  exact ⟨tellsNoError, bench, bench ▸ undisturbed.model, bench ▸ undisturbed.history⟩

/-- Whatever happened to a session and whatever was typed into its text area, a visit on which an
edit button acts and succeeds leaves the text area in step with the automaton. -/
theorem inStep_of_edit (lawful : toolkit.Lawful) (events : List Event) (entry : Entry)
    {button : Control} (edits : button ∈ Control.edits)
    (acts : ((Session.start.afterAll toolkit events).stages toolkit entry).acts button = true)
    (succeeded :
      ((Session.start.afterAll toolkit events).stages toolkit entry).refusalOf button = none) :
    InStep toolkit ((Session.start.afterAll toolkit events).visit toolkit entry).1 := by
  have current := (Session.current_start.events toolkit events).visit toolkit entry
  have last := (Session.course _ toolkit entry).settled_of_edit lawful edits acts succeeded
  have settled : ((Session.start.afterAll toolkit events).visit toolkit entry).1.Settled :=
    last.of_same rfl rfl rfl
  exact settled.inStep lawful current

/-- Goes back from a session with two states while something else stands in the text area. -/
def goingBack : Entry :=
  { Entry.none with specText := some "SPEC_DFA = ?", pressed := some .undo }

/-- Going back puts the specification of the automaton that was gone back to into the text area. -/
theorem inStep_of_edit_goingBack :
    let session := Session.start.afterAll .standard
      [.visit { Entry.none with pressed := some .addState }]
    (session.stages .standard goingBack).acts .undo = true ∧
      (session.stages .standard goingBack).refusalOf .undo = none ∧
      (session.visit .standard goingBack).1.bench.model = Automaton.empty ∧
      InStep .standard (session.visit .standard goingBack).1 := by
  intro session
  have acts : (session.stages .standard goingBack).acts .undo = true := by decide +kernel
  have succeeded : (session.stages .standard goingBack).refusalOf .undo = none := by
    decide +kernel
  have model : (session.visit .standard goingBack).1.bench.model = Automaton.empty := by
    decide +kernel
  have edits : Control.undo ∈ Control.edits := by decide
  exact ⟨acts, succeeded, model,
    inStep_of_edit Toolkit.lawful_standard _ goingBack edits acts succeeded⟩

end InStep

end Acceptor.Page
