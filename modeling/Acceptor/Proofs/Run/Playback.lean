import Acceptor.Run.Command

/-!
# How a playback goes on

Whatever a playback is asked to do, it goes on by asking for frames, cancelling and closing, and
delivers the frames that these steps show (`exists_steps_of_perform`); what the three steps preserve
is therefore preserved by every command. `Moved` lists what a step can do. A playback has given
notice once if it is finished, and not at all before (`Notified`); once finished it gives no notice
any more and keeps its verdict (`Settled`).
-/

namespace Acceptor

/-- The steps by which a playback goes on. -/
inductive RunStep where
  | next
  | cancel
  | close

/-- A playback after one step. -/
def RunStep.applyTo (step : RunStep) (run : Playback) : Playback :=
  match step with
  | .next => run.next.2
  | .cancel => run.cancel
  | .close => run.close

/-- The frame that a step of a playback shows. -/
def RunStep.shows (step : RunStep) (run : Playback) : Option Frame :=
  match step with
  | .next => run.next.1
  | .cancel => none
  | .close => none

/-- What a receiver does with a frame from within: it takes steps of the run, in any order and
number, and breaks off or not. -/
structure Response where
  steps : List RunStep
  breaksOff : Bool

/-- A reaction as a response. -/
def Reaction.response {Failure : Type} (reaction : Reaction Failure) : Response where
  steps := (if reaction.cancels then [.cancel] else []) ++ if reaction.closes then [.close] else []
  breaksOff := reaction.fails.isSome

/-- The frame that an event hands over. -/
def DriveEvent.frame? : DriveEvent → Option Frame
  | .frame shown => some shown
  | .wait _ => none

theorem Driven.frames_eq {Failure : Type} (driven : Driven Failure) :
    driven.frames = driven.events.filterMap DriveEvent.frame? := rfl

/-- The frames that an answer of a playback delivers. -/
def RunReply.delivered {Failure : Type} : RunReply Failure → List Frame
  | .nothing => []
  | .frame shown => shown.toList
  | .frames shown => shown
  | .driven result => result.frames

namespace Playback

variable {run : Playback}

/-- A playback after some steps. -/
def afterSteps (run : Playback) (steps : List RunStep) : Playback :=
  steps.foldl (fun current step => step.applyTo current) run

/-- The frames that some steps of a playback show. -/
def shownBy (run : Playback) : List RunStep → List Frame
  | [] => []
  | step :: rest => (step.shows run).toList ++ (step.applyTo run).shownBy rest

theorem coming_of_next_none {after : Playback} (step : run.next = (none, after)) :
    after.coming = run.coming := by
  unfold next at step
  split at step
  · exact (Prod.mk.inj step).2 ▸ rfl
  · split at step
    · exact (Prod.mk.inj step).2 ▸ finish_coming run
    · split at step <;> cases step

/-- A step brings no frames back. -/
theorem length_coming_step (step : RunStep) (run : Playback) :
    (step.applyTo run).coming.length ≤ run.coming.length := by
  cases step with
  | next =>
    change run.next.2.coming.length ≤ _
    rcases pulled : run.next with ⟨_ | frame, after⟩
    · exact Nat.le_of_eq (congrArg List.length (coming_of_next_none pulled))
    · exact Nat.le_of_lt (length_coming_of_next pulled)
  | cancel => exact length_coming_cancel run
  | close => exact length_coming_close run

theorem length_coming_afterSteps (run : Playback) (steps : List RunStep) :
    (run.afterSteps steps).coming.length ≤ run.coming.length := by
  induction steps generalizing run with
  | nil => exact Nat.le_refl _
  | cons step rest inductionHypothesis =>
    exact Nat.le_trans (inductionHypothesis _) (length_coming_step step run)

/-- The steps of a playback while its frames are handed to a receiver, those that the receiver
takes from within among them. -/
def deliverySteps (receiver : Frame → Response) (run : Playback) : List RunStep :=
  match step : run.next with
  | (none, _) => [.next]
  | (some frame, after) =>
    have _ := Nat.lt_of_le_of_lt (length_coming_afterSteps after (receiver frame).steps)
      (length_coming_of_next step)
    if (receiver frame).breaksOff then .next :: (receiver frame).steps
    else .next :: ((receiver frame).steps ++
      (after.afterSteps (receiver frame).steps).deliverySteps receiver)
termination_by run.coming.length

/-- The steps of a playback while it is driven for a receiver. -/
def drivingSteps (receiver : Frame → Response) (run : Playback) : List RunStep :=
  run.deliverySteps receiver ++ [.close]

theorem afterSteps_append (run : Playback) (earlier later : List RunStep) :
    run.afterSteps (earlier ++ later) = (run.afterSteps earlier).afterSteps later :=
  List.foldl_append

theorem shownBy_append (run : Playback) (earlier later : List RunStep) :
    run.shownBy (earlier ++ later) =
      run.shownBy earlier ++ (run.afterSteps earlier).shownBy later := by
  induction earlier generalizing run with
  | nil => rfl
  | cons step rest inductionHypothesis =>
    rw [List.cons_append, shownBy, shownBy, inductionHypothesis, List.append_assoc]
    rfl

/-- A reaction to a frame takes the steps of its response, which show nothing. -/
theorem applyTo_eq_afterSteps {Failure : Type} (reaction : Reaction Failure) (run : Playback) :
    reaction.applyTo run = run.afterSteps reaction.response.steps ∧
      run.shownBy reaction.response.steps = [] := by
  obtain ⟨cancels, closes, fails⟩ := reaction
  cases cancels <;> cases closes <;> exact ⟨rfl, rfl⟩

/-- Without a next frame there are none left. -/
theorem rest_of_none {after : Playback} (step : run.next = (none, after)) :
    run.rest = ([], after) := by
  rw [rest]
  split
  · next same => rw [Prod.mk.inj (same.symm.trans step) |>.2]
  · next same => cases same.symm.trans step

/-- The frames left are the next one and those left after it. -/
theorem rest_of_some {after : Playback} {frame : Frame} (step : run.next = (some frame, after)) :
    run.rest = (frame :: after.rest.1, after.rest.2) := by
  rw [rest]
  split
  · next same => cases same.symm.trans step
  · next same =>
    obtain ⟨first, rfl⟩ := Prod.mk.inj (same.symm.trans step)
    cases first
    rfl

theorem afterSteps_next {after : Playback} {frame : Option Frame} (step : run.next = (frame, after))
    (steps : List RunStep) : run.afterSteps (.next :: steps) = after.afterSteps steps := by
  change run.next.2.afterSteps steps = after.afterSteps steps
  rw [step]

theorem shownBy_next {after : Playback} {frame : Option Frame} (step : run.next = (frame, after))
    (steps : List RunStep) :
    run.shownBy (.next :: steps) = frame.toList ++ after.shownBy steps := by
  change run.next.1.toList ++ run.next.2.shownBy steps = _
  rw [step]

/-- Asking for all frames is a sequence of steps. -/
theorem exists_steps_of_rest (run : Playback) :
    ∃ steps, run.rest.2 = run.afterSteps steps ∧ run.rest.1 = run.shownBy steps := by
  fun_induction rest run with
  | case1 run after step =>
    exact ⟨[.next], (afterSteps_next step []).symm, (shownBy_next step []).symm⟩
  | case2 run frame after step shorter frames last others inductionHypothesis =>
    obtain ⟨steps, same, shown⟩ := inductionHypothesis
    rw [others] at same shown
    refine ⟨.next :: steps, ?_, ?_⟩
    · rw [afterSteps_next step, ← same]
    · rw [shownBy_next step, ← shown]
      rfl

/-- The delivery of a frame hands over this frame. -/
theorem filterMap_delivery (delay : Delay) (frame : Frame) :
    (delivery delay frame).filterMap DriveEvent.frame? = [frame] := by
  unfold delivery
  split <;> rfl

/-- Without a next frame nothing is delivered. -/
theorem deliverySteps_of_none {after : Playback} (receiver : Frame → Response)
    (step : run.next = (none, after)) : run.deliverySteps receiver = [.next] := by
  rw [deliverySteps]
  split
  · rfl
  · next same => cases same.symm.trans step

theorem deliverySteps_of_some {after : Playback} {frame : Frame} (receiver : Frame → Response)
    (step : run.next = (some frame, after)) :
    run.deliverySteps receiver = .next :: if (receiver frame).breaksOff then (receiver frame).steps
      else (receiver frame).steps ++
        (after.afterSteps (receiver frame).steps).deliverySteps receiver := by
  rw [deliverySteps]
  split
  · next same => cases same.symm.trans step
  · next same =>
    obtain ⟨first, rfl⟩ := Prod.mk.inj (same.symm.trans step)
    cases first
    split <;> rfl

/-- Delivering the frames to a receiver takes these steps and hands over what they show. -/
theorem deliver_eq_afterSteps {Failure : Type} (receiver : Frame → Reaction Failure)
    (delay : Delay) (run : Playback) :
    (run.deliver receiver delay).2.1 =
        run.afterSteps (run.deliverySteps fun frame => (receiver frame).response) ∧
      (run.deliver receiver delay).1.filterMap DriveEvent.frame? =
        run.shownBy (run.deliverySteps fun frame => (receiver frame).response) := by
  fun_induction deliver receiver delay run with
  | case1 run after step =>
    rw [deliverySteps_of_none _ step]
    exact ⟨(afterSteps_next step []).symm, (shownBy_next step []).symm⟩
  | case2 run frame after step shorter reacted failure fails =>
    obtain ⟨same, silent⟩ := applyTo_eq_afterSteps (receiver frame) after
    have breaksOff : (receiver frame).response.breaksOff = true := by
      simp [Reaction.response, fails]
    rw [deliverySteps_of_some _ step, if_pos breaksOff]
    refine ⟨same.trans (afterSteps_next step _).symm, ?_⟩
    rw [shownBy_next step, silent]
    exact filterMap_delivery delay frame
  | case3 run frame after step shorter reacted goesOn events last failure others
      inductionHypothesis =>
    obtain ⟨same, silent⟩ := applyTo_eq_afterSteps (receiver frame) after
    obtain ⟨onward, shown⟩ := inductionHypothesis
    have stays : ¬(receiver frame).response.breaksOff = true := by simp [Reaction.response, goesOn]
    rw [deliverySteps_of_some _ step, if_neg stays]
    rw [others] at onward shown
    rw [afterSteps_next step, shownBy_next step, afterSteps_append, shownBy_append, silent, ← same,
      List.filterMap_append, filterMap_delivery]
    exact ⟨onward, congrArg (frame :: ·) shown⟩

/-- Driving a run takes these steps and hands over what they show. -/
theorem drive_eq_afterSteps {Failure : Type} (receiver : Frame → Reaction Failure) (delay : Delay)
    (run : Playback) :
    (run.drive receiver delay).run =
        run.afterSteps (run.drivingSteps fun frame => (receiver frame).response) ∧
      (run.drive receiver delay).frames =
        run.shownBy (run.drivingSteps fun frame => (receiver frame).response) := by
  obtain ⟨same, shown⟩ := deliver_eq_afterSteps receiver delay run
  rw [drivingSteps, afterSteps_append, shownBy_append, ← same, ← shown]
  exact ⟨rfl, (Driven.frames_eq _).trans (List.append_nil _).symm⟩

/-- Every command to a playback is a sequence of steps, and delivers what they show. -/
theorem exists_steps_of_perform {Failure : Type} (command : RunCommand Failure) (run : Playback) :
    ∃ steps, (run.perform command).2 = run.afterSteps steps ∧
      (run.perform command).1.delivered = run.shownBy steps := by
  cases command with
  | next => exact ⟨[.next], rfl, (List.append_nil _).symm⟩
  | rest => exact exists_steps_of_rest run
  | cancel => exact ⟨[.cancel], rfl, rfl⟩
  | close => exact ⟨[.close], rfl, rfl⟩
  | status => exact ⟨[], rfl, rfl⟩
  | drive receiver delay => exact ⟨_, drive_eq_afterSteps receiver delay run⟩

/-- What every step preserves is preserved by every command. -/
theorem perform_induction {Failure : Type} (property : Playback → Prop)
    (preserved : ∀ (step : RunStep) (run : Playback), property run → property (step.applyTo run))
    (command : RunCommand Failure) (holds : property run) : property (run.perform command).2 := by
  obtain ⟨steps, same, -⟩ := exists_steps_of_perform command run
  rw [same]
  clear same
  induction steps generalizing run with
  | nil => exact holds
  | cons step others inductionHypothesis => exact inductionHypothesis (preserved step run holds)

/-- What a step can do to a playback, with the frame that it shows: nothing but drop frames once the
playback is finished, and before that show a frame, which finishes it if it carries a verdict, or
finish it without one. -/
inductive Moved (run : Playback) : RunStep → Option Frame → Playback → Prop where
  | ended {step coming} (finished : run.finished = true) : Moved run step none { run with coming }
  | shown {frame rest} (running : run.finished = false) (coming : run.coming = frame :: rest)
      (undecided : frame.verdict = none) : Moved run .next (some frame) { run with coming := rest }
  | decided {frame rest verdict} (running : run.finished = false)
      (coming : run.coming = frame :: rest) (decides : frame.verdict = some verdict) :
      Moved run .next (some frame) (finish { run with coming := rest, verdict := some verdict })
  | stopped {step coming cancelled} (running : run.finished = false) :
      Moved run step none (finish { run with coming, cancelled })

/-- A finished playback is not changed by finishing it. -/
theorem finish_of_finished (finished : run.finished = true) : run.finish = run := by
  unfold finish
  rw [if_pos finished]

theorem finish_of_running (running : run.finished = false) :
    run.finish = { run with finished := true, notices := run.notices ++ [run.verdict] } := by
  unfold finish
  rw [if_neg (by simp [running])]

theorem next_of_finished (finished : run.finished = true) : run.next = (none, run) := by
  unfold next
  rw [if_pos finished]

theorem next_of_undecided {frame : Frame} {rest : List Frame} (running : run.finished = false)
    (coming : run.coming = frame :: rest) (undecided : frame.verdict = none) :
    run.next = (some frame, { run with coming := rest }) := by
  simp [next, running, coming, undecided]

theorem next_of_decided {frame : Frame} {rest : List Frame} {verdict : Verdict}
    (running : run.finished = false) (coming : run.coming = frame :: rest)
    (decides : frame.verdict = some verdict) :
    run.next = (some frame, finish { run with coming := rest, verdict := some verdict }) := by
  simp [next, running, coming, decides]

theorem cancel_of_running (running : run.finished = false) :
    run.cancel = close { run with cancelled := true } := by
  unfold cancel
  rw [if_neg (by simp [running])]

/-- A step of a finished playback shows nothing and drops the frames to come at most. -/
theorem step_of_finished (finished : run.finished = true) (step : RunStep) :
    step.shows run = none ∧ ∃ coming, step.applyTo run = { run with coming := coming } := by
  cases step with
  | next =>
    rw [RunStep.shows, RunStep.applyTo, next_of_finished finished]
    exact ⟨rfl, run.coming, rfl⟩
  | cancel =>
    refine ⟨rfl, run.coming, ?_⟩
    change run.cancel = run
    unfold cancel
    rw [if_pos finished]
  | close => exact ⟨rfl, [], finish_of_finished finished⟩

theorem steps_of_finished (finished : run.finished = true) (steps : List RunStep) :
    run.shownBy steps = [] ∧ ∃ coming, run.afterSteps steps = { run with coming := coming } := by
  induction steps generalizing run with
  | nil => exact ⟨rfl, run.coming, rfl⟩
  | cons step rest inductionHypothesis =>
    obtain ⟨shows, coming, same⟩ := step_of_finished finished step
    have still : (step.applyTo run).finished = true := by rw [same, finished]
    obtain ⟨later, left, others⟩ := inductionHypothesis still
    refine ⟨?_, left, ?_⟩
    · rw [shownBy, shows, later]
      rfl
    · rw [same] at others
      change (step.applyTo run).afterSteps rest = _
      rw [same, others]

/-- Every step does one of these. -/
theorem moved (step : RunStep) (run : Playback) :
    Moved run step (step.shows run) (step.applyTo run) := by
  cases finished : run.finished with
  | true =>
    obtain ⟨shows, coming, same⟩ := step_of_finished finished step
    rw [shows, same]
    exact .ended finished
  | false =>
    cases step with
    | next =>
      cases coming : run.coming with
      | nil =>
        have step : run.next = (none, run.finish) := by simp [next, finished, coming]
        simp only [RunStep.shows, RunStep.applyTo, step]
        exact .stopped finished
      | cons frame rest =>
        cases decides : frame.verdict with
        | none =>
          simp only [RunStep.shows, RunStep.applyTo, next_of_undecided finished coming decides]
          exact .shown finished coming decides
        | some verdict =>
          simp only [RunStep.shows, RunStep.applyTo, next_of_decided finished coming decides]
          exact .decided finished coming decides
    | cancel =>
      simp only [RunStep.shows, RunStep.applyTo, cancel_of_running finished]
      exact .stopped finished
    | close => exact .stopped finished

/-- Notice has been given once if a playback is finished, and not at all before. -/
def Notified (run : Playback) : Prop :=
  run.notices.length = if run.finished then 1 else 0

theorem notified_start (model : Automaton) (symbols : List Symbol) (emptyAccepts : Bool) :
    (start model symbols emptyAccepts).Notified := rfl

/-- Finishing gives the one notice. -/
theorem Notified.finish (notified : run.Notified) : run.finish.Notified := by
  unfold Playback.finish
  split
  · exact notified
  · next running =>
    unfold Notified at notified ⊢
    simp [notified, running]

/-- Commands preserve that notice is given once. -/
theorem Notified.perform {Failure : Type} (notified : run.Notified)
    (command : RunCommand Failure) : (run.perform command).2.Notified := by
  refine perform_induction Notified (fun step run notified => ?_) command notified
  have moved := moved step run
  generalize step.shows run = frame at moved
  generalize step.applyTo run = after at moved ⊢
  cases moved with
  | ended finished => exact notified
  | shown running coming undecided => exact notified
  | decided running coming decides => exact Notified.finish notified
  | stopped running => exact Notified.finish notified

/-- A playback is still finished and has the notices and the verdict that it had. -/
structure Settled (run after : Playback) : Prop where
  finished : after.finished = true
  notices : after.notices = run.notices
  verdict : after.verdict = run.verdict

theorem Settled.refl (finished : run.finished = true) : Settled run run :=
  ⟨finished, rfl, rfl⟩

theorem Settled.trans {between after : Playback} (first : Settled run between)
    (second : Settled between after) : Settled run after :=
  ⟨second.finished, second.notices.trans first.notices, second.verdict.trans first.verdict⟩

/-- A step of a finished playback shows nothing and leaves it settled. -/
theorem settled_of_step (finished : run.finished = true) (step : RunStep) :
    step.shows run = none ∧ Settled run (step.applyTo run) := by
  obtain ⟨shows, coming, same⟩ := step_of_finished finished step
  rw [same]
  exact ⟨shows, finished, rfl, rfl⟩

theorem settled_of_steps (finished : run.finished = true) (steps : List RunStep) :
    run.shownBy steps = [] ∧ Settled run (run.afterSteps steps) := by
  obtain ⟨shows, coming, same⟩ := steps_of_finished finished steps
  rw [same]
  exact ⟨shows, finished, rfl, rfl⟩

/-- A finished playback stays finished with its notices and its verdict, whatever it is asked to do,
and delivers no frame. -/
theorem perform_of_finished {Failure : Type} (finished : run.finished = true)
    (command : RunCommand Failure) :
    (run.perform command).1.delivered = [] ∧ Settled run (run.perform command).2 := by
  obtain ⟨steps, same, delivered⟩ := exists_steps_of_perform command run
  rw [same, delivered]
  exact settled_of_steps finished steps

/-- A playback whose coming frames carry no verdict before the last shows them all, and is finished
by the last with its verdict. -/
theorem rest_of_coming {silent : List Frame} {terminal : Frame} {verdict : Verdict}
    (running : run.finished = false) (coming : run.coming = silent ++ [terminal])
    (silence : ∀ frame ∈ silent, frame.verdict = none)
    (decides : terminal.verdict = some verdict) :
    run.rest =
      (silent ++ [terminal], finish { run with coming := [], verdict := some verdict }) := by
  induction silent generalizing run with
  | nil =>
    have step := next_of_decided running coming decides
    have ended : next (finish { run with coming := [], verdict := some verdict }) =
        (none, finish { run with coming := [], verdict := some verdict }) := by
      simp [next, finish, running]
    rw [rest_of_some step, rest_of_none ended]
    rfl
  | cons frame others inductionHypothesis =>
    rw [List.cons_append] at coming
    have step := next_of_undecided running coming (silence frame (.head _))
    have still : ({ run with coming := others ++ [terminal] } : Playback).finished = false :=
      running
    have later := inductionHypothesis still rfl fun frame member =>
      silence frame (List.mem_cons_of_mem _ member)
    rw [rest_of_some step, later]
    rfl

end Playback

end Acceptor
