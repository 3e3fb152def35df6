import Acceptor.Proofs.Run.Foretold

/-!
# The life of a playback

A playback is asked for frames, cancelled and closed in any order and as often as one likes, by
whoever started it and by a receiver that it is driven for. `LifeCycle` says what has become of it
after any such steps. It rests on `Phase`: a playback is on its way, has shown everything, or was
stopped before, and no step leads back.
-/

namespace Acceptor

namespace Playback

/-- The frames from the start of a run to its end: the last one carries a verdict, no other does. -/
def Tells (verdict : Verdict) (whole : List Frame) : Prop :=
  ∃ silent terminal, whole = silent ++ [terminal] ∧
    (∀ frame ∈ silent, frame.verdict = none) ∧ terminal.verdict = some verdict

/-- Where a playback stands after some steps that have shown some frames of all that it has. -/
inductive Phase (verdict : Verdict) (whole : List Frame) (steps : List RunStep)
    (shown : List Frame) (run : Playback) : Prop where
  | underway (running : run.finished = false) (undecided : run.verdict = none)
      (kept : run.cancelled = false) (untold : run.notices = [])
      (onward : shown ++ run.coming = whole) (more : run.coming ≠ [])
      (pulled : ∀ step ∈ steps, step = .next)
  | completed (finished : run.finished = true) (decided : run.verdict = some verdict)
      (kept : run.cancelled = false) (told : run.notices = [some verdict]) (all : shown = whole)
  | stopped (finished : run.finished = true) (undecided : run.verdict = none)
      (told : run.notices = [none]) (part : shown <+: whole) (short : shown ≠ whole)
      (called : ∃ step ∈ steps, step ≠ .next)

/-- What has become of a playback `run` with all its frames `whole` after some steps: they have
shown some frames, and the playback stands as `after`. -/
structure LifeCycle (whole : List Frame) (run : Playback) (steps : List RunStep)
    (shown : List Frame) (after : Playback) : Prop where
  /-- The frames come in order, without a gap or a repetition. -/
  inOrder : shown <+: whole
  decided_iff : after.verdict.isSome = true ↔ shown = whole
  finished_iff : after.finished = true ↔
    after.verdict.isSome = true ∨ RunStep.cancel ∈ steps ∨ RunStep.close ∈ steps
  /-- Nothing is shown and nothing changes any more once a playback has finished. -/
  ended : after.finished = true → ∀ later,
    after.shownBy later = [] ∧ (after.afterSteps later).finished = true ∧
      (after.afterSteps later).cancelled = after.cancelled ∧
      (after.afterSteps later).verdict = after.verdict
  cancelled_iff : after.cancelled = true ↔
    ∃ earlier later, steps = earlier ++ RunStep.cancel :: later ∧
      (run.afterSteps earlier).finished = false
  /-- A cancelled playback never comes to a verdict. -/
  withdrawn : after.cancelled = true → ∀ later, (after.afterSteps later).verdict = none
  /-- Notice is given once, when the verdict is there already, and not before the end. -/
  told : after.notices = if after.finished then [after.verdict] else []

variable {run : Playback} {verdict : Verdict} {whole shown : List Frame} {steps : List RunStep}

/-- A frame carries no verdict exactly if there are more to come. -/
theorem Tells.rest_eq_nil_iff (tells : Tells verdict whole) {frame : Frame} {rest : List Frame}
    (cut : shown ++ frame :: rest = whole) :
    (frame.verdict = none ∧ rest ≠ []) ∨ (frame.verdict = some verdict ∧ rest = []) := by
  obtain ⟨silent, terminal, same, silence, decides⟩ := tells
  rw [← cut] at same
  rcases List.eq_nil_or_concat' rest with rfl | ⟨others, last, rfl⟩
  · obtain ⟨-, here⟩ := List.append_inj' same rfl
    obtain rfl := (List.cons.inj here).1
    exact .inr ⟨decides, rfl⟩
  · rw [← List.cons_append, ← List.append_assoc] at same
    obtain ⟨earlier, -⟩ := List.append_inj' same rfl
    exact .inl ⟨silence frame (by simp [← earlier]), by simp⟩

/-- A playback that is stopped while it is on its way has not shown everything. -/
theorem short_of_more (onward : shown ++ run.coming = whole) (more : run.coming ≠ []) :
    shown <+: whole ∧ shown ≠ whole := by
  refine ⟨⟨_, onward⟩, fun all => more ?_⟩
  rw [all] at onward
  exact List.append_right_eq_self.mp onward

/-- A playback that is closed while it is on its way was stopped. -/
theorem stopped_of_close (running : run.finished = false) (undecided : run.verdict = none)
    (untold : run.notices = []) (onward : shown ++ run.coming = whole) (more : run.coming ≠ [])
    (called : ∃ step ∈ steps, step ≠ .next) : Phase verdict whole steps shown run.close := by
  obtain ⟨part, short⟩ := short_of_more onward more
  refine .stopped ?_ ?_ ?_ part short called
  · simp [close]
  · simp [close, finish_of_running, running, undecided]
  · simp [close, finish_of_running, running, undecided, untold]

/-- Every step leads from one phase to the next. -/
theorem Phase.step (tells : Tells verdict whole) (phase : Phase verdict whole steps shown run)
    (step : RunStep) :
    Phase verdict whole (steps ++ [step]) (shown ++ (step.shows run).toList)
      (step.applyTo run) := by
  cases phase with
  | underway running undecided kept untold onward more pulled =>
    cases step with
    | next =>
      obtain ⟨frame, rest, coming⟩ := List.exists_cons_of_ne_nil more
      rw [coming] at onward
      have further : (shown ++ [frame]) ++ rest = whole := by simpa using onward
      rw [RunStep.shows, RunStep.applyTo]
      obtain ⟨silent, left⟩ | ⟨decides, rfl⟩ := tells.rest_eq_nil_iff onward
      · rw [next_of_undecided running coming silent]
        refine .underway running undecided kept untold further left ?_
        simpa [or_imp, forall_and] using pulled
      · rw [next_of_decided running coming decides]
        rw [List.append_nil] at further
        exact .completed (by simp) (by simp [finish_of_running, running])
          (by simp [finish_of_running, running, kept])
          (by simp [finish_of_running, running, untold]) further
    | cancel =>
      rw [RunStep.shows, RunStep.applyTo, cancel_of_running running, Option.toList_none,
        List.append_nil]
      exact stopped_of_close running undecided untold onward more ⟨.cancel, by simp⟩
    | close =>
      rw [RunStep.shows, RunStep.applyTo, Option.toList_none, List.append_nil]
      exact stopped_of_close running undecided untold onward more ⟨.close, by simp⟩
  | completed finished decided kept told all =>
    obtain ⟨shows, coming, same⟩ := step_of_finished finished step
    rw [shows, same, Option.toList_none, List.append_nil]
    exact .completed finished decided kept told all
  | stopped finished undecided told part short stops =>
    obtain ⟨shows, coming, same⟩ := step_of_finished finished step
    rw [shows, same, Option.toList_none, List.append_nil]
    obtain ⟨other, called, stopping⟩ := stops
    exact .stopped finished undecided told part short
      ⟨other, List.mem_append_left _ called, stopping⟩

theorem Phase.afterSteps (tells : Tells verdict whole)
    (phase : Phase verdict whole steps shown run)
    (later : List RunStep) :
    Phase verdict whole (steps ++ later) (shown ++ run.shownBy later) (run.afterSteps later) := by
  induction later generalizing run steps shown with
  | nil =>
    rw [shownBy, List.append_nil, List.append_nil]
    exact phase
  | cons step rest inductionHypothesis =>
    have onward := inductionHypothesis (phase.step tells step)
    rw [List.append_assoc, List.append_assoc] at onward
    exact onward

@[simp]
theorem finish_cancelled (run : Playback) : run.finish.cancelled = run.cancelled := by
  unfold finish
  split <;> rfl

theorem next_cancelled (run : Playback) : run.next.2.cancelled = run.cancelled := by
  unfold next
  split
  · rfl
  · split
    · exact finish_cancelled run
    · split
      · rfl
      · exact finish_cancelled _

/-- Only a request while it has not finished cancels a playback. -/
theorem cancel_of_step {step : RunStep} (kept : run.cancelled = false)
    (cancelled : (step.applyTo run).cancelled = true) :
    step = .cancel ∧ run.finished = false := by
  cases finished : run.finished with
  | true =>
    obtain ⟨-, coming, same⟩ := step_of_finished finished step
    rw [same] at cancelled
    exact absurd (kept.symm.trans cancelled) nofun
  | false =>
    cases step with
    | cancel => exact ⟨rfl, rfl⟩
    | close => simp [RunStep.applyTo, close, kept] at cancelled
    | next =>
      rw [RunStep.applyTo, next_cancelled, kept] at cancelled
      cases cancelled

/-- A playback that has got cancelled was asked to cancel while it had not finished. -/
theorem exists_cancel_of_cancelled (kept : run.cancelled = false)
    (cancelled : (run.afterSteps steps).cancelled = true) :
    ∃ earlier later, steps = earlier ++ RunStep.cancel :: later ∧
      (run.afterSteps earlier).finished = false := by
  induction steps generalizing run with
  | nil => exact absurd (kept.symm.trans cancelled) nofun
  | cons step rest inductionHypothesis =>
    cases first : (step.applyTo run).cancelled with
    | true =>
      obtain ⟨rfl, running⟩ := cancel_of_step kept first
      exact ⟨[], rest, rfl, running⟩
    | false =>
      obtain ⟨earlier, later, rfl, running⟩ := inductionHypothesis first cancelled
      exact ⟨step :: earlier, later, rfl, running⟩

/-- A playback asked to cancel while it has not finished is cancelled for ever. -/
theorem cancelled_of_cancel {earlier : List RunStep} (later : List RunStep)
    (running : (run.afterSteps earlier).finished = false) :
    (run.afterSteps (earlier ++ .cancel :: later)).cancelled = true := by
  have now : (run.afterSteps earlier).cancel.cancelled = true := by
    simp [cancel_of_running running, close, finish_of_running, running]
  have finished : (run.afterSteps earlier).cancel.finished = true := by
    simp [cancel_of_running running, close]
  obtain ⟨-, coming, same⟩ := steps_of_finished finished later
  rw [afterSteps_append]
  change ((run.afterSteps earlier).cancel.afterSteps later).cancelled = true
  rw [same]
  exact now

/-- What the phase of a playback says about its life. -/
theorem Phase.lifeCycle {after : Playback} (phase : Phase verdict whole steps shown after)
    (kept : run.cancelled = false) (same : run.afterSteps steps = after) :
    LifeCycle whole run steps shown after where
  inOrder := by
    cases phase with
    | underway _ _ _ _ onward => exact ⟨_, onward⟩
    | completed _ _ _ _ all => exact all ▸ List.prefix_rfl
    | stopped _ _ _ part => exact part
  decided_iff := by
    cases phase with
    | underway _ undecided _ _ onward more => simp [undecided, (short_of_more onward more).2]
    | completed _ decided _ _ all => simp [decided, all]
    | stopped _ undecided _ _ short => simp [undecided, short]
  finished_iff := by
    cases phase with
    | underway running undecided _ _ _ _ pulled =>
      refine ⟨fun finished => absurd (running.symm.trans finished) nofun, ?_⟩
      rintro (decided | cancel | close)
      · simp [undecided] at decided
      · cases pulled _ cancel
      · cases pulled _ close
    | completed finished decided => simp [finished, decided]
    | stopped finished undecided _ _ _ called =>
      obtain ⟨step, member, stops⟩ := called
      refine ⟨fun _ => .inr ?_, fun _ => finished⟩
      cases step with
      | next => exact absurd rfl stops
      | cancel => exact .inl member
      | close => exact .inr member
  ended := by
    intro finished later
    obtain ⟨shows, coming, same⟩ := steps_of_finished finished later
    rw [same]
    exact ⟨shows, finished, rfl, rfl⟩
  cancelled_iff := by
    subst same
    constructor
    · exact exists_cancel_of_cancelled kept
    · rintro ⟨earlier, later, rfl, running⟩
      exact cancelled_of_cancel later running
  withdrawn := by
    intro cancelled later
    cases phase with
    | underway _ _ kept => exact absurd (kept.symm.trans cancelled) nofun
    | completed _ _ kept => exact absurd (kept.symm.trans cancelled) nofun
    | stopped finished undecided =>
      obtain ⟨-, coming, same⟩ := steps_of_finished finished later
      rw [same]
      exact undecided
  told := by
    cases phase with
    | underway running _ _ untold => simp [running, untold]
    | completed finished decided _ told => simp [finished, decided, told]
    | stopped finished undecided told => simp [finished, undecided, told]

/-- A new playback is on its way, with all its frames to come. -/
theorem phase_start {model : Automaton} {symbols : List Symbol} {emptyAccepts : Bool}
    (tells : Tells verdict (start model symbols emptyAccepts).coming) :
    Phase verdict (start model symbols emptyAccepts).coming [] []
      (start model symbols emptyAccepts) := by
  obtain ⟨silent, terminal, same, -⟩ := tells
  exact .underway rfl rfl rfl rfl rfl (by simp [same]) nofun

/-- Whatever steps a new playback takes, it leads this life; and a playback that is driven takes
its steps like any other, those that the receiver takes from within among them. -/
theorem lifeCycle_of_start {model : Automaton} (valid : model.Valid) (symbols : List Symbol)
    (emptyAccepts : Bool) :
    (∀ steps : List RunStep,
      LifeCycle (model.frames model.projection emptyAccepts symbols)
        (start model symbols emptyAccepts) steps
        ((start model symbols emptyAccepts).shownBy steps)
        ((start model symbols emptyAccepts).afterSteps steps)) ∧
      ∀ {Failure : Type} (receiver : Frame → Reaction Failure) (delay : Delay) (run : Playback),
        (run.drive receiver delay).run =
            run.afterSteps (run.drivingSteps fun frame => (receiver frame).response) ∧
          (run.drive receiver delay).frames =
            run.shownBy (run.drivingSteps fun frame => (receiver frame).response) := by
  refine ⟨fun steps => ?_, fun receiver delay run => drive_eq_afterSteps receiver delay run⟩
  have tells := (foretold_start valid symbols emptyAccepts).coming rfl
  exact ((phase_start tells).afterSteps tells steps).lifeCycle rfl rfl

/-- A run through the corridor that is cancelled after two frames shows these two, whatever it is
asked for afterwards, and gives notice once, without a verdict. -/
theorem lifeCycle_of_interrupted : Automaton.corridor.Valid ∧
    let run := start Automaton.corridor ["in"] true
    let steps := [.next, .next, .cancel, .next, .close, .cancel]
    LifeCycle (Automaton.corridor.frames Automaton.corridor.projection true ["in"]) run steps
        (run.shownBy steps) (run.afterSteps steps) ∧
      (run.shownBy steps).map Frame.kind = [.start, .edge] ∧
      (run.afterSteps steps).cancelled = true ∧ (run.afterSteps steps).notices = [none] :=
  ⟨Automaton.valid_corridor, (lifeCycle_of_start Automaton.valid_corridor ["in"] true).1 _, rfl,
    rfl, rfl⟩

end Playback

end Acceptor
