import Acceptor.Proofs.Page.Showing

/-!
# Buttons whose request is refused

Where the workbench refuses what a button asks of it, the visit leaves the session that it would
have left without the button. Every stage of such a visit keeps the session it found: the stage of
the pressed button because it was refused, the others because their buttons were not pressed
(`Course.shown_of_refused`). The one exception is the text area under the button for the default
specification, which is written before the workbench is asked (`visit_of_refused`); the workbench
then refuses because it is busy, and for nothing else.

Which presses are answered is left to the toolkit. One that answers presses of disabled buttons has
the workbench refuse any of them while another visitor keeps a run on its way.
-/

namespace Acceptor.Page

/-- The same values put into the controls, with no button pressed. -/
def Entry.unpressed (entry : Entry) : Entry :=
  { entry with pressed := .none }

/-- One button is pressed at a time. -/
theorem Entry.eq_of_presses {entry : Entry} {control other : Control}
    (presses : entry.presses control = true) (pressesOther : entry.presses other = true) :
    control = other :=
  Option.some.inj ((eq_of_beq presses).symm.trans (eq_of_beq pressesOther))

/-- One session is as another in all that a refused button leaves alone, with a certain text in its
text area. -/
structure LeftAlone (after other : Session) (text : String) : Prop where
  bench : after.bench = other.bench
  lastVerdict : after.lastVerdict = other.lastVerdict
  lastInput : after.lastInput = other.lastInput
  specText : after.specText = text

/-- Every button that is pressed is refused. -/
def Stages.Refused (stages : Stages) (entry : Entry) : Prop :=
  ∀ control, entry.presses control = true → ∃ error, stages.refusalOf control = some error

namespace Session

variable {session : Session}

theorem report_of_refused {result : Except WorkbenchError Workbench} {error : WorkbenchError}
    (refused : (session.report result).2 = some error) : (session.report result).1 = session := by
  cases result with
  | ok bench => cases refused
  | error error => rfl

theorem edit_of_refused {result : Except WorkbenchError Workbench} {error : WorkbenchError}
    (refused : (session.edit result).2 = some error) : (session.edit result).1 = session := by
  cases result with
  | ok bench => cases refused
  | error error => rfl

/-- A stage keeps the session it found if its button does not act or is refused. -/
theorem session_of_refused {stage : Stage} {acts : Bool}
    {change : Workbench → Except WorkbenchError Workbench}
    (staged : stage = session.stage acts change)
    (refused : acts = true → ∃ error, stage.refusal = some error) : stage.session = session := by
  subst staged
  cases acts with
  | false => rfl
  | true =>
    obtain ⟨error, failed⟩ := refused rfl
    exact edit_of_refused failed

theorem finding_of_refused {checks : Bool}
    (refused : checks = true → ∃ error, (session.finding false checks).refusal = some error) :
    (session.finding false checks).session = session := by
  cases checks with
  | false => rfl
  | true =>
    obtain ⟨error, failed⟩ := refused rfl
    exact (checkInput_of_refused failed).2

/-- The default specification in the text area if its button was pressed. -/
def filled (session : Session) (entry : Entry) : Session :=
  { session with
    specText := if entry.presses .loadDefault then Spec.defaultText else session.specText }

theorem filled_of_not_presses {entry : Entry} (presses : entry.presses .loadDefault = false) :
    session.filled entry = session := by
  rw [filled, presses]
  rfl

/-- A callback whose button, if one was pressed, is refused leaves what it found but for the default
specification in the text area. -/
theorem callback_of_refused {toolkit : Toolkit} {entry : Entry} {due : Bool}
    (lawful : toolkit.Lawful)
    (refused : ∀ control ∈ [Control.build, Control.loadDefault], entry.presses control = true →
      ∃ error, (session.callback toolkit entry due).refusal = some error) :
    (session.callback toolkit entry due).session = session.filled entry := by
  rcases callback_cases lawful session entry due with
    noCall | ⟨presses, built⟩ | ⟨presses, loaded⟩
  · have notDefault : entry.presses .loadDefault = false :=
      Bool.eq_false_of_not_eq_true fun pressesDefault => by
        obtain ⟨error, failed⟩ := refused .loadDefault (by decide) pressesDefault
        rw [noCall] at failed
        cases failed
    rw [noCall, filled_of_not_presses notDefault]
  · have notDefault : entry.presses .loadDefault = false :=
      Bool.eq_false_of_not_eq_true fun pressesDefault =>
        nomatch Entry.eq_of_presses presses pressesDefault
    obtain ⟨error, failed⟩ := refused .build (by decide) presses
    rw [built] at failed
    rw [built, filled_of_not_presses notDefault]
    exact report_of_refused failed
  · obtain ⟨error, failed⟩ := refused .loadDefault (by decide) presses
    rw [loaded] at failed
    rw [loaded, filled, presses]
    exact report_of_refused failed

end Session

namespace Course

variable {session : Session} {toolkit : Toolkit} {entry : Entry} {stages : Stages}

/-- If every button that is pressed is refused, nothing happens while the page is built but that the
selections are brought up to date. -/
theorem shown_of_refused (course : Course session toolkit entry stages) (lawful : toolkit.Lawful)
    (refused : stages.Refused entry) : stages.shown = stages.opened.select toolkit := by
  have refusedIf (control : Control) (acts : stages.acts control = true) :
      ∃ error, stages.refusalOf control = some error :=
    refused control (course.presses_of_acts lawful acts)
  have reset := Session.session_of_refused course.reset (refusedIf .reset)
  have undone := Session.session_of_refused course.undone (refusedIf .undo)
  have stateAdded := Session.session_of_refused course.stateAdded (refusedIf .addState)
  have acceptingAdded :=
    Session.session_of_refused course.acceptingAdded (refusedIf .addAcceptingState)
  have startAccepted := Session.session_of_refused course.startAccepted (refusedIf .startAccepting)
  have joined := Session.session_of_refused course.joined (refusedIf .addTransition)
  have toggled := Session.session_of_refused course.toggled (refusedIf .toggleAccepting)
  have selected : stages.selected = stages.opened.select toolkit := by
    rw [course.selected, startAccepted, acceptingAdded, stateAdded, undone, reset]
  have clears : stages.clears = false :=
    -- The button that clears the results asks nothing of the workbench.
    Bool.eq_false_of_not_eq_true fun acts => by
      obtain ⟨error, ⟨⟩⟩ := refusedIf .resetAnimation acts
  have finding : stages.finding = stages.toggled.session.finding false stages.checks :=
    clears ▸ course.finding
  have checked : stages.shown = stages.toggled.session := by
    rw [Stages.shown, finding]
    apply Session.finding_of_refused
    rw [← finding]
    exact refusedIf .check
  rw [checked, toggled, joined, selected]

/-- If every button that is pressed is refused, a visit enters its values, brings the selections up
to date and may fill the text area. -/
theorem last_of_refused (course : Course session toolkit entry stages) (lawful : toolkit.Lawful)
    (refused : stages.Refused entry) :
    stages.last = ((session.enter toolkit entry).select toolkit).filled entry := by
  have shown := course.shown_of_refused lawful refused
  have failed (control : Control) (member : control ∈ [Control.build, Control.loadDefault])
      (presses : entry.presses control = true) :
      ∃ error, stages.early.refusal.or stages.late.refusal = some error := by
    rcases List.mem_pair.mp member with rfl | rfl
    · exact refused .build presses
    · exact refused .loadDefault presses
  -- Callbacks are made before the page is built or after it, but not at both times.
  cases first : toolkit.callsFirst with
  | true =>
    have late : stages.late = ⟨stages.shown, false, none⟩ := by
      rw [course.late, first, Bool.not_true, Bool.and_false]
      rfl
    have opened : stages.opened = (session.enter toolkit entry).filled entry := by
      rw [late, Option.or_none, course.early] at failed
      rw [Stages.opened, course.early]
      exact Session.callback_of_refused lawful failed
    rw [Stages.last, late, shown, opened]
    rfl
  | false =>
    have early : stages.early = ⟨session.enter toolkit entry, false, none⟩ := by
      rw [course.early, first]
      rfl
    rw [early, Option.none_or, course.late] at failed
    rw [Stages.last, course.late, Session.callback_of_refused lawful failed, shown, Stages.opened,
      early]

end Course

namespace Session

variable {session : Session} {toolkit : Toolkit}

/-- A visit whose button is refused leaves the workbench, the last verdict, its input and the text
area as the same visit leaves them without the button, but for the default specification in the text
area. -/
theorem visit_of_refused (lawful : toolkit.Lawful) {entry : Entry} {button : Control}
    {error : WorkbenchError} (pressed : entry.pressed = some button)
    (refused : (session.stages toolkit entry).refusalOf button = some error) :
    LeftAlone (session.visit toolkit entry).1 (session.visit toolkit entry.unpressed).1
      (if button = .loadDefault then Spec.defaultText
        else (session.visit toolkit entry.unpressed).1.specText) := by
  have presses : entry.presses button = true := by
    rw [Entry.presses, pressed]
    exact beq_self_eq_true _
  have allRefused : (session.stages toolkit entry).Refused entry := fun control pressesToo =>
    Entry.eq_of_presses presses pressesToo ▸ ⟨error, refused⟩
  have after := (session.course toolkit entry).last_of_refused lawful allRefused
  have unpressed : (session.stages toolkit entry.unpressed).last =
      (session.enter toolkit entry).select toolkit :=
    (session.course toolkit entry.unpressed).last_of_refused lawful fun _ => nofun
  have same : (session.stages toolkit entry).last =
      { (session.stages toolkit entry.unpressed).last with
        specText := if button = .loadDefault then Spec.defaultText
          else (session.stages toolkit entry.unpressed).last.specText } := by
    have filled : entry.presses .loadDefault = decide (button = .loadDefault) := by
      rw [Entry.presses, pressed]
      rfl
    rw [after, unpressed, Session.filled, filled]
    simp only [decide_eq_true_eq]
  exact ⟨(congrArg Session.bench same :), (congrArg Session.lastVerdict same :),
    (congrArg Session.lastInput same :), (congrArg Session.specText same :)⟩

/-- A session with two states and a transition from the first one to itself, and with the verdict of
a run that was shown. -/
def looped : Session :=
  start.afterAll .standard [
    .visit { Entry.none with pressed := some .addState },
    .visit { Entry.none with pressed := some .addTransition },
    .visit { Entry.none with
      inputString := some "A", animate := some true, pressed := some .check }]

/-- The same session while another visitor keeps a run on its way. -/
def occupied : Session :=
  looped.after .standard (.hold (some "A"))

/-- Asks for a transition to the second state, with something else in the text area. -/
def otherTarget : Entry :=
  { Entry.none with
    secondNode := some 2, specText := some "SPEC_DFA", pressed := some .addTransition }

/-- Presses a button, with something else in the text area. -/
def pressing (button : Control) : Entry :=
  { Entry.none with specText := some "SPEC_DFA", pressed := some button }

/-- A conflict changes nothing, and neither does a press on a busy workbench where a toolkit answers
for disabled buttons. -/
theorem visit_of_refusals :
    ((looped.stages .standard otherTarget).refusalOf .addTransition =
        some (.automaton (.conflict ⟨1, "Start", false⟩ "A" ⟨1, "Start", false⟩)) ∧
      LeftAlone (looped.visit .standard otherTarget).1
        (looped.visit .standard otherTarget.unpressed).1 "SPEC_DFA") ∧
    ((occupied.stages .obliging (pressing .reset)).refusalOf .reset = some (.busy .reset) ∧
      LeftAlone (occupied.visit .obliging (pressing .reset)).1
        (occupied.visit .obliging (pressing .reset).unpressed).1 "SPEC_DFA") ∧
    (occupied.stages .obliging (pressing .check)).refusalOf .check = some (.busy .startRun) ∧
      LeftAlone (occupied.visit .obliging (pressing .check)).1
        (occupied.visit .obliging (pressing .check).unpressed).1 "SPEC_DFA" := by
  have conflicting : (looped.stages .standard otherTarget).refusalOf .addTransition =
      some (.automaton (.conflict ⟨1, "Start", false⟩ "A" ⟨1, "Start", false⟩)) := by
    decide +kernel
  have resetting : (occupied.stages .obliging (pressing .reset)).refusalOf .reset =
      some (.busy .reset) := by
    decide +kernel
  have checking : (occupied.stages .obliging (pressing .check)).refusalOf .check =
      some (.busy .startRun) := by
    decide +kernel
  exact ⟨⟨conflicting, visit_of_refused Toolkit.lawful_standard rfl conflicting⟩,
    ⟨resetting, visit_of_refused Toolkit.lawful_obliging rfl resetting⟩,
    checking, visit_of_refused Toolkit.lawful_obliging rfl checking⟩

/-- While another visitor keeps a run on its way the default specification is refused, and stands in
the text area all the same. -/
theorem defaultText_of_refused :
    let session := start.afterAll .standard [.hold (some "A")]
    let entry := { Entry.none with pressed := some .loadDefault }
    (session.stages .standard entry).refusalOf .loadDefault = some (.busy .importSpec) ∧
      (session.visit .standard entry).1.specText ≠
        (session.visit .standard entry.unpressed).1.specText := by
  decide +kernel

end Session

end Acceptor.Page
