import Acceptor.Proofs.Run.LifeCycle

/-!
# Driving a playback to its end

Driving hands over the frames that come next, up to the first one on which the run is over: because
it carries the verdict, because the receiver ends the run on it, or because the receiver breaks off
(`deliver_stops`). Whatever the receiver does, the run has finished afterwards and has given its one
notice. `HandedOver` is all that is said about a driven run, and it holds in whatever phase of its
life a playback is driven (`Phase.handedOver`).
-/

namespace Acceptor

/-- The wait that an event is. -/
def DriveEvent.wait? : DriveEvent → Option Delay
  | .wait delay => some delay
  | .frame _ => none

/-- A frame is the last one to be handed over: it carries the verdict, or the receiver ends the run
or breaks off on it. -/
def Frame.Ends {Failure : Type} (receiver : Frame → Reaction Failure) (frame : Frame) : Prop :=
  (frame.terminal = true ∨ (receiver frame).cancels = true ∨ (receiver frame).closes = true) ∨
    (receiver frame).fails.isSome = true

/-- What has become of a playback `run` by driving it, where `whole` are all its frames, `shown`
those that it has shown before, and `verdict` is the one it comes to unless it is stopped. -/
structure HandedOver {Failure : Type} (whole shown : List Frame) (verdict : Verdict)
    (run : Playback) (receiver : Frame → Reaction Failure) (delay : Delay)
    (driven : Driven Failure) : Prop where
  /-- The frames that are handed over are the next ones, in order and without a gap. -/
  onward : shown ++ driven.frames <+: whole
  /-- They end with the first one on which the run is over, -/
  upToEnd : run.finished = false → ∃ earlier last, driven.frames = earlier ++ [last] ∧
    (∀ frame ∈ earlier, ¬frame.Ends receiver) ∧ last.Ends receiver
  /-- and there are none if it was over before. -/
  nothing : run.finished = true → driven.frames = []
  /-- Each frame is waited for just before it is handed over, but for the first one of the run, -/
  paced : driven.events = driven.frames.flatMap fun frame =>
    if 1 < frame.sequence ∧ delay.waits = true then [.wait delay, .frame frame] else [.frame frame]
  /-- and there are no other waits. -/
  waits : driven.waits =
    if delay.waits then (driven.frames.filter (1 < ·.sequence)).map fun _ => delay else []
  finished : driven.run.finished = true
  told : driven.run.notices.length = 1
  /-- A failure of the receiver comes out as it is, -/
  raised : ∀ frame ∈ driven.frames, ∀ failure, (receiver frame).fails = some failure →
    driven.result = .error failure
  /-- and without one the answer is the verdict of the run, -/
  returned : (∀ frame ∈ driven.frames, (receiver frame).fails = none) →
    driven.result = .ok driven.run.verdict
  /-- which is there if its frame has been delivered, now or before. -/
  decided : driven.run.verdict =
    if (shown ++ driven.frames).any Frame.terminal then some verdict else none

theorem Driven.waits_eq {Failure : Type} (driven : Driven Failure) :
    driven.waits = driven.events.filterMap DriveEvent.wait? := rfl

namespace Playback

variable {Failure : Type} {run after : Playback} {frame : Frame} {verdict : Verdict}
  {whole shown : List Frame} {steps : List RunStep}

/-- A finished playback has nothing to deliver. -/
theorem deliver_of_finished (finished : run.finished = true)
    (receiver : Frame → Reaction Failure) (delay : Delay) :
    run.deliver receiver delay = ([], run, none) := by
  have ended := next_of_finished finished
  rw [deliver]
  split
  · next same =>
    rw [ended] at same
    cases same
    rfl
  · next same => cases same.symm.trans ended

/-- What is delivered are the frames, each with the wait before it. -/
theorem events_of_deliver (receiver : Frame → Reaction Failure) (delay : Delay) (run : Playback) :
    (run.deliver receiver delay).1 =
      ((run.deliver receiver delay).1.filterMap DriveEvent.frame?).flatMap (delivery delay) := by
  fun_induction deliver receiver delay run with
  | case1 run after step => rfl
  | case2 run frame after step shorter reacted failure fails =>
    rw [filterMap_delivery, List.flatMap_singleton]
  | case3 run frame after step shorter reacted goesOn events last failure others
      inductionHypothesis =>
    rw [others] at inductionHypothesis
    rw [List.filterMap_append, filterMap_delivery, List.flatMap_append, List.flatMap_singleton,
      ← inductionHypothesis]

/-- A wait is made for a frame that is not the first, if the delay asks for one. -/
theorem delivery_eq (delay : Delay) (frame : Frame) :
    delivery delay frame =
      if 1 < frame.sequence ∧ delay.waits = true then [.wait delay, .frame frame]
      else [.frame frame] := by
  unfold delivery
  by_cases waits : 1 < frame.sequence ∧ delay.waits = true
  · simp [waits]
  · rw [if_neg waits, if_neg (by simpa using waits), List.nil_append]

/-- The waits that come with frames. -/
theorem waits_of_delivery (delay : Delay) (frames : List Frame) :
    (frames.flatMap (delivery delay)).filterMap DriveEvent.wait? =
      if delay.waits then (frames.filter (1 < ·.sequence)).map fun _ => delay else [] := by
  induction frames with
  | nil => simp
  | cons frame rest inductionHypothesis =>
    rw [List.flatMap_cons, List.filterMap_append, inductionHypothesis, delivery_eq]
    cases waits : delay.waits with
    | false => simp [DriveEvent.wait?]
    | true =>
      by_cases later : 1 < frame.sequence <;> simp [DriveEvent.wait?, later]

/-- A run goes on after a frame exactly if it carries no verdict and the receiver does not end the
run on it. -/
theorem finished_of_reaction (running : run.finished = false)
    (step : run.next = (some frame, after)) (reaction : Reaction Failure) :
    (reaction.applyTo after).finished = true ↔
      frame.terminal = true ∨ reaction.cancels = true ∨ reaction.closes = true := by
  obtain ⟨rest, coming⟩ : ∃ rest, run.coming = frame :: rest := ⟨_, coming_of_next step⟩
  cases decides : frame.verdict with
  | none =>
    rw [next_of_undecided running coming decides] at step
    cases step
    obtain ⟨cancels, closes, fails⟩ := reaction
    cases cancels <;> cases closes <;>
      simp [Reaction.applyTo, Frame.terminal, decides, running, close, cancel_of_running]
  | some verdict =>
    rw [next_of_decided running coming decides] at step
    cases step
    have ended := finish_finished { run with coming := rest, verdict := some verdict }
    obtain ⟨same, -⟩ := applyTo_eq_afterSteps reaction
      (finish { run with coming := rest, verdict := some verdict })
    simp [same, Frame.terminal, decides, (settled_of_steps ended _).2.finished]

/-- A playback that has not finished delivers frames up to the first one on which it is over, and
the delivery fails if the receiver does on that one. -/
theorem deliver_stops (tells : Tells verdict whole) (phase : Phase verdict whole steps shown run)
    (running : run.finished = false) (receiver : Frame → Reaction Failure) (delay : Delay) :
    ∃ earlier last,
      (run.deliver receiver delay).1.filterMap DriveEvent.frame? = earlier ++ [last] ∧
      (∀ frame ∈ earlier, ¬frame.Ends receiver) ∧ last.Ends receiver ∧
      (run.deliver receiver delay).2.2 = (receiver last).fails := by
  fun_induction deliver receiver delay run generalizing steps shown with
  | case1 run after step =>
    -- A playback that is on its way has a frame to show.
    cases phase with
    | underway _ _ _ _ onward more =>
      obtain ⟨frame, rest, coming⟩ := List.exists_cons_of_ne_nil more
      cases decides : frame.verdict with
      | none => cases (next_of_undecided running coming decides).symm.trans step
      | some verdict => cases (next_of_decided running coming decides).symm.trans step
    | completed finished => cases running.symm.trans finished
    | stopped finished => cases running.symm.trans finished
  | case2 run frame after step shorter reacted failure =>
    rename_i fails
    refine ⟨[], frame, filterMap_delivery delay frame, List.forall_mem_nil _, .inr ?_, fails.symm⟩
    rw [fails, Option.isSome_some]
  | case3 run frame after step shorter reacted goesOn events last failure others =>
    rename_i inductionHypothesis
    have goesOn' : ¬(receiver frame).fails.isSome = true := by simp [goesOn]
    have ends := finished_of_reaction running step (receiver frame)
    rw [List.filterMap_append, filterMap_delivery]
    cases ended : reacted.finished with
    | true =>
      rw [deliver_of_finished ended] at others
      cases others
      exact ⟨[], frame, rfl, List.forall_mem_nil _, .inl (ends.mp ended), goesOn.symm⟩
    | false =>
      have next := phase.step tells .next
      have stepped : RunStep.next.applyTo run = after := congrArg Prod.snd step
      rw [stepped] at next
      have onward := next.afterSteps tells (receiver frame).response.steps
      rw [← (applyTo_eq_afterSteps (receiver frame) after).1] at onward
      obtain ⟨earlier, final, frames, before, finalEnds, same⟩ := inductionHypothesis onward ended
      rw [others] at frames same
      refine ⟨frame :: earlier, final, congrArg (frame :: ·) frames, ?_, finalEnds, same⟩
      refine List.forall_mem_cons.mpr ⟨?_, before⟩
      rintro (stops | fails)
      · cases ended.symm.trans (ends.mpr stops)
      · exact goesOn' fails

/-- A playback that was stopped has not shown the frame with the verdict, one that is complete
has. -/
theorem any_terminal_iff (tells : Tells verdict whole) (part : shown <+: whole) :
    shown.any Frame.terminal = true ↔ shown = whole := by
  obtain ⟨silent, terminal, rfl, silence, decides⟩ := tells
  constructor
  · intro decided
    rcases List.prefix_concat_iff.mp part with same | before
    · exact same
    · obtain ⟨frame, member, carries⟩ := List.any_eq_true.mp decided
      simp [Frame.terminal, silence frame (before.subset member)] at carries
  · rintro rfl
    simp [Frame.terminal, decides]

/-- A playback that has finished has shown a first part of its frames, has given its one notice, and
has a verdict exactly if it has shown the frame that carries it. -/
theorem Phase.concluded (tells : Tells verdict whole) (phase : Phase verdict whole steps shown run)
    (finished : run.finished = true) :
    shown <+: whole ∧ run.notices.length = 1 ∧
      run.verdict = if shown.any Frame.terminal then some verdict else none := by
  cases phase with
  | underway running => cases running.symm.trans finished
  | completed _ decided _ told all =>
    have part : shown <+: whole := all ▸ List.prefix_rfl
    refine ⟨part, congrArg List.length told, ?_⟩
    rw [decided, if_pos ((any_terminal_iff tells part).mpr all)]
  | stopped _ undecided told part short =>
    refine ⟨part, congrArg List.length told, ?_⟩
    rw [undecided, if_neg fun decided => short ((any_terminal_iff tells part).mp decided)]

/-- Whatever the phase in which a playback is driven, it is handed over. -/
theorem Phase.handedOver (tells : Tells verdict whole)
    (phase : Phase verdict whole steps shown run) (receiver : Frame → Reaction Failure)
    (delay : Delay) :
    HandedOver whole shown verdict run receiver delay (run.drive receiver delay) := by
  obtain ⟨same, handed⟩ := drive_eq_afterSteps receiver delay run
  have onward := phase.afterSteps tells (run.drivingSteps fun frame => (receiver frame).response)
  rw [← same, ← handed] at onward
  have closed : (run.drive receiver delay).run.finished = true := finish_finished _
  have frames : (run.drive receiver delay).frames =
      (run.deliver receiver delay).1.filterMap DriveEvent.frame? := rfl
  have events : (run.drive receiver delay).events =
      (run.drive receiver delay).frames.flatMap (delivery delay) :=
    events_of_deliver receiver delay run
  have stops := fun running => deliver_stops tells phase running receiver delay
  obtain ⟨part, told, decided⟩ := onward.concluded tells closed
  refine ⟨part, ?_, ?_, ?_, ?_, closed, told, ?_, ?_, decided⟩
  · intro running
    obtain ⟨earlier, last, parts, before, ends, -⟩ := stops running
    exact ⟨earlier, last, parts, before, ends⟩
  · intro finished
    rw [frames, deliver_of_finished finished]
    rfl
  · rw [events]
    exact List.flatMap_congr fun frame _ => delivery_eq delay frame
  · rw [Driven.waits_eq, events, waits_of_delivery]
  · intro frame member failure fails
    cases finished : run.finished with
    | true =>
      rw [frames, deliver_of_finished finished] at member
      cases member
    | false =>
      obtain ⟨earlier, last, parts, before, -, failed⟩ := stops finished
      rw [frames, parts] at member
      rcases List.mem_append.mp member with early | final
      · exact absurd (.inr (by simp [fails])) (before frame early)
      · obtain rfl := List.mem_singleton.mp final
        simp [drive, failed, fails]
  · intro unfailing
    cases finished : run.finished with
    | true =>
      simp [drive, deliver_of_finished finished]
    | false =>
      obtain ⟨earlier, last, parts, -, -, failed⟩ := stops finished
      have kept := unfailing last (by simp [frames, parts])
      simp [drive, failed, kept]

/-- A new playback is handed over in whatever order it is asked for frames, cancelled and closed
before it is driven. -/
theorem handedOver_of_afterSteps {model : Automaton} (valid : model.Valid) (symbols : List Symbol)
    (emptyAccepts : Bool) (steps : List RunStep) (receiver : Frame → Reaction Failure)
    (delay : Delay) :
    HandedOver (model.frames model.projection emptyAccepts symbols)
      ((start model symbols emptyAccepts).shownBy steps) (model.check emptyAccepts symbols)
      ((start model symbols emptyAccepts).afterSteps steps) receiver delay
      (((start model symbols emptyAccepts).afterSteps steps).drive receiver delay) := by
  have tells := (foretold_start valid symbols emptyAccepts).coming rfl
  exact ((phase_start tells).afterSteps tells steps).handedOver tells receiver delay

end Playback

end Acceptor
