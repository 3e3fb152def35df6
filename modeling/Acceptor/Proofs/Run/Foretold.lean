import Acceptor.Proofs.Run.Playback
import Acceptor.Proofs.Run.Story

/-!
# The verdict that a playback comes to

A playback knows from its start what it will show. `Foretold` says so while it goes on: it shows
the automaton it was started with, and unless it has finished, the last of its frames to come
carries the verdict, and no other does. A frame with a verdict therefore has this one, whichever
command it is delivered by, and the playback has it from then on.
-/

namespace Acceptor

namespace Playback

variable {model : Automaton} {verdict : Verdict} {run : Playback}

/-- A playback shows an automaton and comes to a verdict on it, unless it is stopped before. -/
structure Foretold (model : Automaton) (verdict : Verdict) (run : Playback) : Prop where
  onModel : run.model = model
  onPicture : run.picture = model.projection
  coming : run.finished = false → ∃ silent terminal, run.coming = silent ++ [terminal] ∧
    (∀ frame ∈ silent, frame.verdict = none) ∧ terminal.verdict = some verdict

/-- A new playback comes to the verdict that a check of its input gives. -/
theorem foretold_start (valid : model.Valid) (symbols : List Symbol) (emptyAccepts : Bool) :
    Foretold model (model.check emptyAccepts symbols) (start model symbols emptyAccepts) where
  onModel := rfl
  onPicture := rfl
  coming := by
    intro _
    obtain ⟨left, concluded⟩ := model.exists_concluded_check emptyAccepts symbols
    refine ⟨_, _, model.frames_eq valid concluded, fun frame member => ?_, rfl⟩
    rcases List.mem_cons.mp member with rfl | later
    · rfl
    · exact Automaton.verdict_of_mem_story later

@[simp]
theorem finish_model (run : Playback) : run.finish.model = run.model := by
  unfold finish
  split <;> rfl

@[simp]
theorem finish_picture (run : Playback) : run.finish.picture = run.picture := by
  unfold finish
  split <;> rfl

@[simp]
theorem finish_finished (run : Playback) : run.finish.finished = true := by
  unfold finish
  split
  · assumption
  · rfl

/-- Every step preserves what a playback comes to. -/
theorem Foretold.step (foretold : run.Foretold model verdict) (step : RunStep) :
    (step.applyTo run).Foretold model verdict := by
  have moved := moved step run
  generalize step.shows run = frame at moved
  generalize step.applyTo run = after at moved ⊢
  cases moved with
  | ended finished => exact ⟨foretold.onModel, foretold.onPicture, by simp [finished]⟩
  | @shown frame rest running coming undecided =>
    refine ⟨foretold.onModel, foretold.onPicture, fun _ => ?_⟩
    obtain ⟨silent, terminal, same, silence, decides⟩ := foretold.coming running
    rw [coming] at same
    cases silent with
    | nil =>
      obtain ⟨rfl, -⟩ := List.cons.inj same
      simp [undecided] at decides
    | cons first others =>
      obtain ⟨rfl, rfl⟩ := List.cons.inj same
      exact ⟨others, terminal, rfl, fun frame member => silence frame (.tail _ member), decides⟩
  | decided running coming decides =>
    exact ⟨by simp [foretold.onModel], by simp [foretold.onPicture], by simp⟩
  | stopped running =>
    exact ⟨by simp [foretold.onModel], by simp [foretold.onPicture], by simp⟩

/-- Every command preserves what a playback comes to. -/
theorem Foretold.perform {Failure : Type} (foretold : run.Foretold model verdict)
    (command : RunCommand Failure) : (run.perform command).2.Foretold model verdict :=
  perform_induction (Foretold model verdict) (fun step _ foretold => foretold.step step) command
    foretold

/-- A playback has finished and come to a verdict. -/
structure Decided (verdict : Verdict) (run : Playback) : Prop where
  finished : run.finished = true
  verdict : run.verdict = some verdict

/-- A settled playback keeps its verdict. -/
theorem Decided.of_settled {after : Playback} (decided : run.Decided verdict)
    (settled : Settled run after) : after.Decided verdict :=
  ⟨settled.finished, settled.verdict.trans decided.verdict⟩

/-- A step that shows a verdict shows the one foretold, which the playback then has. -/
theorem Foretold.decided_of_step (foretold : run.Foretold model verdict) {step : RunStep}
    {frame : Frame} {said : Verdict} (shows : step.shows run = some frame)
    (decides : frame.verdict = some said) :
    said = verdict ∧ (step.applyTo run).Decided verdict := by
  have moved := moved step run
  rw [shows] at moved
  generalize step.applyTo run = after at moved ⊢
  cases moved with
  | shown running coming undecided => simp [undecided] at decides
  | decided running coming carries =>
    obtain ⟨silent, terminal, same, silence, last⟩ := foretold.coming running
    rw [coming] at same
    -- The frame is the last one, since those before it carry no verdict.
    cases silent with
    | nil =>
      obtain ⟨rfl, -⟩ := List.cons.inj same
      obtain rfl := Option.some.inj (decides.symm.trans last)
      obtain rfl := Option.some.inj (carries.symm.trans last)
      exact ⟨rfl, by simp, by simp [finish_of_running, running]⟩
    | cons first others =>
      obtain ⟨rfl, -⟩ := List.cons.inj same
      simp [silence frame (.head _)] at decides

theorem Foretold.decided_of_steps (foretold : run.Foretold model verdict) {steps : List RunStep}
    {frame : Frame} {said : Verdict} (shows : frame ∈ run.shownBy steps)
    (decides : frame.verdict = some said) :
    said = verdict ∧ (run.afterSteps steps).Decided verdict := by
  induction steps generalizing run with
  | nil => cases shows
  | cons step rest inductionHypothesis =>
    rcases List.mem_append.mp shows with now | later
    · obtain ⟨same, decided⟩ :=
        foretold.decided_of_step (Option.mem_toList.mp now) decides
      exact ⟨same, decided.of_settled (settled_of_steps decided.finished rest).2⟩
    · exact inductionHypothesis (foretold.step step) later

/-- A command that delivers a verdict delivers the one foretold, which the playback then has. -/
theorem Foretold.decided_of_perform {Failure : Type} (foretold : run.Foretold model verdict)
    {command : RunCommand Failure} {frame : Frame} {said : Verdict}
    (delivered : frame ∈ (run.perform command).1.delivered)
    (decides : frame.verdict = some said) :
    said = verdict ∧ (run.perform command).2.Decided verdict := by
  obtain ⟨steps, same, shown⟩ := exists_steps_of_perform command run
  rw [shown] at delivered
  rw [same]
  exact foretold.decided_of_steps delivered decides

/-- A playback that delivers something has not finished yet. -/
theorem running_of_delivered {Failure : Type} {command : RunCommand Failure} {frame : Frame}
    (delivered : frame ∈ (run.perform command).1.delivered) : run.finished = false := by
  by_contra finished
  rw [(perform_of_finished (eq_true_of_ne_false finished) command).1] at delivered
  cases delivered

section Taking

variable {Failure : Type} {receiver : Frame → Reaction Failure}

/-- A receiver that only takes frames is handed all that are left. -/
theorem deliver_of_takes (takes : ∀ frame, receiver frame = Reaction.takes) (delay : Delay)
    (run : Playback) : (run.deliver receiver delay).2.1 = run.rest.2 := by
  fun_induction deliver receiver delay run with
  | case1 run after step => rw [rest_of_none step]
  | case2 run frame after step shorter reacted failure fails =>
    rw [takes] at fails
    cases fails
  | case3 run frame after step shorter reacted goesOn events last failure others
      inductionHypothesis =>
    have untouched : reacted = after := by
      change (receiver frame).applyTo after = after
      rw [takes]
      rfl
    rw [others, untouched] at inductionHypothesis
    rw [rest_of_some step]
    exact inductionHypothesis

/-- A playback that has not finished comes to the verdict foretold if it is driven for a receiver
that only takes frames. -/
theorem Foretold.decided_of_drive (foretold : run.Foretold model verdict)
    (running : run.finished = false) (takes : ∀ frame, receiver frame = Reaction.takes)
    (delay : Delay) : (run.drive receiver delay).run.Decided verdict := by
  obtain ⟨silent, terminal, coming, silence, decides⟩ := foretold.coming running
  have pulled := rest_of_coming running coming silence decides
  have delivered := deliver_of_takes takes delay run
  rw [pulled] at delivered
  have decided : (run.deliver receiver delay).2.1.Decided verdict := by
    rw [delivered]
    exact ⟨finish_finished _, by simp [finish_of_running, running]⟩
  exact decided.of_settled (settled_of_step decided.finished .close).2

end Taking

end Playback

end Acceptor
