import Acceptor.Page.Visit
import Acceptor.Proofs.Run.Foretold
import Acceptor.Proofs.Workbench.Change

/-!
# What is done on a page

Whatever is done on a page gives some commands to the workbench, and does one of three things to the
last verdict: it is forgotten, or kept with its input while the automaton stays as it is, or it is
the verdict on the last input. `Acts` says this of two sessions and holds along any sequence of such
doings, so a visit with all its buttons is treated like one of them (`Course.acts_last`), whichever
of them its toolkit lets act. Only the check needs to know something of the session before: that its
automaton is valid, without which the run that is shown could come to another verdict.
-/

namespace Acceptor.Page

/-- What becomes of the last verdict. -/
inductive Recalls (before after : Session) : Prop where
  | forgotten (verdict : after.lastVerdict = none)
  | kept (model : after.bench.model = before.bench.model)
      (verdict : after.lastVerdict = before.lastVerdict)
      (input : after.lastInput = before.lastInput)
  | found (verdict : after.lastVerdict = some (after.bench.check (some after.lastInput)))

/-- One session comes from another by commands to the workbench, with the last verdict treated as
it has to be. -/
structure Acts (before after : Session) : Prop where
  commands : ∃ commands : List (Command Empty), after.bench = before.bench.performAll commands
  recalls : Recalls before after

namespace Acts

variable {before between after : Session}

/-- What leaves the workbench and the last verdict with its input alone. -/
theorem of_same (bench : after.bench = before.bench)
    (verdict : after.lastVerdict = before.lastVerdict)
    (input : after.lastInput = before.lastInput) : Acts before after :=
  ⟨⟨[], bench⟩, .kept (congrArg Workbench.model bench) verdict input⟩

theorem refl (session : Session) : Acts session session :=
  of_same rfl rfl rfl

/-- What is done one after the other. The verdict is the one that was found last, if it was not
forgotten since. -/
theorem trans (first : Acts before between) (second : Acts between after) : Acts before after where
  commands := by
    obtain ⟨earlier, reached⟩ := first.commands
    obtain ⟨later, ended⟩ := second.commands
    exact ⟨earlier ++ later, by rw [ended, reached, Workbench.performAll_append]⟩
  recalls := by
    cases second.recalls with
    | forgotten verdict => exact .forgotten verdict
    | found verdict => exact .found verdict
    | kept model verdict input =>
      cases first.recalls with
      | forgotten forgotten => exact .forgotten (verdict.trans forgotten)
      | kept modelBefore verdictBefore inputBefore =>
        exact .kept (model.trans modelBefore) (verdict.trans verdictBefore)
          (input.trans inputBefore)
      | found found =>
        refine .found ?_
        rw [verdict, found, input, Workbench.check, Workbench.check, model]

end Acts

namespace Session

variable {session : Session}

/-- A report on a command forgets the last verdict, and leaves all as it was if the command is
refused. -/
theorem acts_report {result : Except WorkbenchError Workbench} (command : Command Empty)
    (asked : result = (session.bench.attempt command).map (·.2)) :
    Acts session (session.report result).1 := by
  subst asked
  cases answered : session.bench.attempt command with
  | ok answer =>
    refine ⟨⟨[command], ?_⟩, .forgotten rfl⟩
    change answer.2 = (session.bench.perform command).2
    rw [Workbench.perform, answered]
  | error error => exact .refl session

theorem acts_syncSpec (session : Session) : Acts session session.syncSpec := by
  unfold syncSpec
  split
  · exact .of_same rfl rfl rfl
  · exact .refl session

/-- An edit reports on a command and brings the text area up to date. -/
theorem acts_edit {result : Except WorkbenchError Workbench} (command : Command Empty)
    (asked : result = (session.bench.attempt command).map (·.2)) :
    Acts session (session.edit result).1 := by
  have acts := acts_report command asked
  unfold edit
  split
  · next edited reported =>
    rw [reported] at acts
    exact acts.trans edited.acts_syncSpec
  · next same error reported =>
    rw [reported] at acts
    exact acts

/-- An edit button gives its command, or does nothing. -/
theorem acts_stage {stage : Stage} {acts : Bool}
    {change : Workbench → Except WorkbenchError Workbench} (command : Command Empty)
    (staged : stage = session.stage acts change)
    (asked : change session.bench = (session.bench.attempt command).map (·.2)) :
    Acts session stage.session := by
  subst staged
  cases acts with
  | false => exact .refl session
  | true => exact acts_edit command asked

/-- The callbacks import a text. -/
theorem acts_callback (toolkit : Toolkit) (entry : Entry) (due : Bool) :
    Acts session (session.callback toolkit entry due).session := by
  unfold callback
  split_ifs with builds loads
  · exact acts_report (.importSpec (some session.specText)) (map_snd_eq_map_map _ _ fun _ => rfl)
  · have filled : Acts session { session with specText := Spec.defaultText } :=
      .of_same rfl rfl rfl
    exact filled.trans (acts_report .loadDefault (map_snd_eq_map_map _ _ fun _ => rfl))
  · exact .refl session

/-- With a lawful toolkit a callback is made only for a button that was pressed. -/
theorem callback_cases {toolkit : Toolkit} (lawful : toolkit.Lawful) (session : Session)
    (entry : Entry) (due : Bool) :
    session.callback toolkit entry due = ⟨session, false, none⟩ ∨
      (entry.presses .build = true ∧ session.callback toolkit entry due =
        ⟨session.buildFromSpec.1, true, session.buildFromSpec.2⟩) ∨
      entry.presses .loadDefault = true ∧ session.callback toolkit entry due =
        ⟨session.loadDefault.1, true, session.loadDefault.2⟩ := by
  unfold callback
  split_ifs with builds loads
  · exact .inr (.inl ⟨lawful.pressed_of_calls _ _ (Bool.and_eq_true_iff.mp builds).2, rfl⟩)
  · exact .inr (.inr ⟨lawful.pressed_of_calls _ _ (Bool.and_eq_true_iff.mp loads).2, rfl⟩)
  · exact .inl rfl

/-- A run that was started comes to the verdict of a check if it is shown to its end. -/
theorem verdict_of_shown (valid : session.bench.model.Valid) {text : Option String}
    {run : Playback} {bench : Workbench}
    (started : session.bench.startRun text = .ok (run, bench)) :
    (run.drive showFrames Delay.zero).run.verdict = some (session.bench.check text) := by
  obtain ⟨idle, rfl, rfl⟩ := Workbench.startRun_eq_ok_iff.mp started
  have foretold := Playback.foretold_start valid (inputSymbols? text) Automaton.emptyInputAccepted
  exact (foretold.decided_of_drive rfl (fun _ => rfl) _).verdict

theorem acts_checkAnimated (valid : session.bench.model.Valid) :
    Acts session session.checkAnimated.session := by
  unfold checkAnimated
  cases started : session.bench.startRun (some session.inputString) with
  | error error => exact .refl session
  | ok answer =>
    obtain ⟨run, bench⟩ := answer
    have begun : (session.bench.perform (.startRun _ : Command Empty)).2 = bench :=
      Workbench.perform_startRun started
    have verdict := verdict_of_shown valid started
    obtain ⟨idle, -, rfl⟩ := Workbench.startRun_eq_ok_iff.mp started
    have found : (session.bench.runs ++ [run])[session.bench.runs.length]? = some run :=
      List.getElem?_concat_length
    refine ⟨⟨[.startRun (some session.inputString),
      .onRun session.bench.runs.length (.drive showFrames Delay.zero)], ?_⟩, .found verdict⟩
    change _ = ((session.bench.perform _).2.perform _).2
    rw [begun, Workbench.perform_onRun found]
    rfl

/-- A check that is refused for its symbols leaves everything as it was. -/
theorem acts_checkInput (valid : session.bench.model.Valid) :
    Acts session session.checkInput.session := by
  unfold checkInput
  dsimp only
  split_ifs with unknown animated
  · exact .refl session
  · exact acts_checkAnimated valid
  · exact ⟨⟨[], rfl⟩, .found rfl⟩

/-- A check is refused because no run can be started, and leaves the session as it was then. -/
theorem checkInput_of_refused {error : WorkbenchError}
    (refused : session.checkInput.refusal = some error) :
    session.bench.startRun (some session.inputString) = .error error ∧
      session.checkInput.session = session := by
  unfold checkInput checkAnimated at refused ⊢
  dsimp only at refused ⊢
  split_ifs at refused ⊢ with unknown animated
  cases started : session.bench.startRun (some session.inputString) with
  | error same =>
    rw [started] at refused
    exact ⟨congrArg Except.error (Option.some.inj refused), rfl⟩
  | ok answer =>
    rw [started] at refused
    cases refused

/-- A check whose symbols are all known is remembered with its input: at once, or after its run was
shown if no other run is on its way. -/
theorem remembered_of_checkInput (valid : session.bench.model.Valid)
    (free : session.animate = false ∨ session.bench.busy = false)
    (known : session.unknownSymbols = []) :
    session.checkInput.session.lastVerdict =
        some (session.bench.check (some session.inputString)) ∧
      session.checkInput.session.lastInput = session.inputString := by
  unfold checkInput
  simp only [known, List.isEmpty_nil, Bool.not_true, Bool.false_eq_true, if_false]
  split
  · next animated =>
    have idle : session.bench.busy = false :=
      free.resolve_left fun still => Bool.false_ne_true (still.symm.trans animated)
    have started : session.bench.startRun (some session.inputString) = .ok (_, _) :=
      Workbench.startRun_eq_ok_iff.mpr ⟨idle, rfl, rfl⟩
    unfold checkAnimated
    rw [started]
    exact ⟨verdict_of_shown valid started, rfl⟩
  · exact ⟨rfl, rfl⟩

theorem remembered_of_finding (valid : session.bench.model.Valid)
    (free : session.animate = false ∨ session.bench.busy = false)
    (known : session.unknownSymbols = []) (clears : Bool) :
    (session.finding clears true).session.lastVerdict =
        some (session.bench.check (some session.inputString)) ∧
      (session.finding clears true).session.lastInput = session.inputString := by
  -- Clearing changes nothing that a check looks at.
  cases clears <;> exact remembered_of_checkInput valid free known

theorem acts_finding (valid : session.bench.model.Valid) (clears checks : Bool) :
    Acts session (session.finding clears checks).session := by
  have cleared : Acts session { session with lastVerdict := none } :=
    ⟨⟨[], rfl⟩, .forgotten rfl⟩
  cases clears <;> cases checks
  · exact .refl session
  · exact acts_checkInput valid
  · exact cleared
  · exact cleared.trans (acts_checkInput valid)

end Session

/-- The button of a control acted on a visit, which is not said of callbacks. -/
def Stages.acts (stages : Stages) : Control → Bool
  | .reset => stages.reset.acted
  | .undo => stages.undone.acted
  | .addState => stages.stateAdded.acted
  | .addAcceptingState => stages.acceptingAdded.acted
  | .startAccepting => stages.startAccepted.acted
  | .addTransition => stages.joined.acted
  | .toggleAccepting => stages.toggled.acted
  | .check => stages.checks
  | .resetAnimation => stages.clears
  | .firstNode | .secondNode | .symbol | .inputString | .animate | .specText | .build | .loadDefault
  | .exportSpec => false

/-- Why the workbench refused what a button asked of it, or its callback, if it did. -/
def Stages.refusalOf (stages : Stages) : Control → Option WorkbenchError
  | .build | .loadDefault => stages.early.refusal.or stages.late.refusal
  | .reset => stages.reset.refusal
  | .undo => stages.undone.refusal
  | .addState => stages.stateAdded.refusal
  | .addAcceptingState => stages.acceptingAdded.refusal
  | .startAccepting => stages.startAccepted.refusal
  | .addTransition => stages.joined.refusal
  | .toggleAccepting => stages.toggled.refusal
  | .check => stages.finding.refusal
  | .firstNode | .secondNode | .symbol | .inputString | .animate | .resetAnimation | .specText
  | .exportSpec => none

/-- The course of a visit: every stage comes from the one before, and a button acts only if it
answers. -/
structure Course (session : Session) (toolkit : Toolkit) (entry : Entry) (stages : Stages) :
    Prop where
  early : stages.early =
    (session.enter toolkit entry).callback toolkit entry toolkit.callsFirst
  reset : stages.reset = stages.opened.stage stages.reset.acted fun bench => bench.reset.map (·.2)
  undone : stages.undone = stages.reset.session.stage stages.undone.acted
    fun bench => bench.undo.map (·.2)
  stateAdded : stages.stateAdded = stages.undone.session.stage stages.stateAdded.acted
    fun bench => (bench.addState false).map (·.2)
  acceptingAdded : stages.acceptingAdded = stages.stateAdded.session.stage
    stages.acceptingAdded.acted fun bench => (bench.addState true).map (·.2)
  startAccepted : stages.startAccepted = stages.acceptingAdded.session.stage
    stages.startAccepted.acted Workbench.acceptStart
  selected : stages.selected = stages.startAccepted.session.select toolkit
  joined : stages.joined = stages.selected.stage stages.joined.acted
    fun bench => bench.addTransition stages.selected.firstNode stages.selected.secondNode
      (stages.selected.symbol.getD "")
  toggled : stages.toggled = stages.joined.session.stage stages.toggled.acted
    fun bench => bench.setAccepting stages.selected.firstNode (!stages.selected.firstAccepts)
  finding : stages.finding = stages.toggled.session.finding stages.clears stages.checks
  late : stages.late = stages.shown.callback toolkit entry
    (stages.joined.failure?.isNone && !toolkit.callsFirst)
  answered : ∀ control, stages.acts control = true →
    ∃ disabled, session.answers toolkit entry control disabled = true

/-- A visit takes this course. -/
theorem Session.course (session : Session) (toolkit : Toolkit) (entry : Entry) :
    Course session toolkit entry (session.stages toolkit entry) where
  early := rfl
  reset := rfl
  undone := rfl
  stateAdded := rfl
  acceptingAdded := rfl
  startAccepted := rfl
  selected := rfl
  joined := rfl
  toggled := rfl
  finding := rfl
  late := rfl
  answered := by
    intro control acts
    cases control with
    | reset | undo | addState | addAcceptingState | startAccepting | addTransition =>
      exact ⟨_, acts⟩
    | toggleAccepting | check | resetAnimation => exact ⟨_, (Bool.and_eq_true_iff.mp acts).2⟩
    | _ => cases acts

namespace Course

variable {session : Session} {toolkit : Toolkit} {entry : Entry} {stages : Stages}

/-- With a lawful toolkit a button acts only if it was pressed. -/
theorem presses_of_acts (course : Course session toolkit entry stages) (lawful : toolkit.Lawful)
    {control : Control} (acts : stages.acts control = true) : entry.presses control = true := by
  obtain ⟨disabled, answered⟩ := course.answered control acts
  exact lawful.pressed_of_answers _ answered

/-- All that is done on a visit before something is selected. -/
theorem acts_selected (course : Course session toolkit entry stages) :
    Acts session stages.selected := by
  have entered : Acts session (session.enter toolkit entry) := .of_same rfl rfl rfl
  have early : Acts (session.enter toolkit entry) stages.opened := by
    rw [Stages.opened, course.early]
    exact Session.acts_callback toolkit entry _
  have reset : Acts stages.opened stages.reset.session :=
    Session.acts_stage .reset course.reset (map_snd_eq_map_map _ _ fun _ => rfl)
  have undone : Acts stages.reset.session stages.undone.session :=
    Session.acts_stage .undo course.undone (map_snd_eq_map_map _ _ fun _ => rfl)
  have stateAdded : Acts stages.undone.session stages.stateAdded.session :=
    Session.acts_stage (.addState false) course.stateAdded (map_snd_eq_map_map _ _ fun _ => rfl)
  have acceptingAdded : Acts stages.stateAdded.session stages.acceptingAdded.session :=
    Session.acts_stage (.addState true) course.acceptingAdded (map_snd_eq_map_map _ _ fun _ => rfl)
  have startAccepted : Acts stages.acceptingAdded.session stages.startAccepted.session :=
    Session.acts_stage .acceptStart course.startAccepted (eq_map_snd_map_pair _ _)
  have selected : Acts stages.startAccepted.session stages.selected := by
    rw [course.selected]
    exact .of_same rfl rfl rfl
  exact entered.trans <| early.trans <| reset.trans <| undone.trans <| stateAdded.trans <|
    acceptingAdded.trans <| startAccepted.trans selected

/-- All that is done on a visit before the check. -/
theorem acts_toggled (course : Course session toolkit entry stages) :
    Acts session stages.toggled.session := by
  have joined : Acts stages.selected stages.joined.session :=
    Session.acts_stage (.addTransition _ _ _) course.joined (eq_map_snd_map_pair _ _)
  have toggled : Acts stages.joined.session stages.toggled.session :=
    Session.acts_stage (.setAccepting _ _) course.toggled (eq_map_snd_map_pair _ _)
  exact course.acts_selected.trans (joined.trans toggled)

/-- All that is done until the page is complete. -/
theorem acts_shown (course : Course session toolkit entry stages)
    (valid : stages.toggled.session.bench.model.Valid) : Acts session stages.shown := by
  have checked : Acts stages.toggled.session stages.shown := by
    rw [Stages.shown, course.finding]
    exact Session.acts_finding valid _ _
  exact course.acts_toggled.trans checked

/-- All that is done on a visit. -/
theorem acts_last (course : Course session toolkit entry stages)
    (valid : stages.toggled.session.bench.model.Valid) : Acts session stages.last := by
  have late : Acts stages.shown stages.last := by
    rw [Stages.last, course.late]
    exact Session.acts_callback toolkit entry _
  exact (course.acts_shown valid).trans late

end Course

end Acceptor.Page
