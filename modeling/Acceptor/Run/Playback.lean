import Acceptor.Run.Frame

/-!
# Playbacks

A run that is shown frame by frame on demand. It works on the automaton and the graph it was
started with. It is finished by its last frame, by being cancelled or by being closed, whichever
comes first; from then on nothing changes it, and whoever started it has been told exactly once.

That giving notice returns is an assumption: nothing is said about a receiver of it that fails. The
workbench, which receives the notices of its own runs, does no more than free itself.
-/

namespace Acceptor

/-- A run on its way: the frames still to come, and how it ended if it did. Every finish notice
records the verdict that was visible when it was given. -/
structure Playback where
  model : Automaton
  symbols : List Symbol
  picture : Projection
  coming : List Frame
  verdict : Option Verdict
  finished : Bool
  cancelled : Bool
  notices : List (Option Verdict)
  deriving DecidableEq, Repr

namespace Playback

/-- A run before its first frame. -/
def start (model : Automaton) (symbols : List Symbol) (emptyAccepts : Bool) : Playback where
  model := model
  symbols := symbols
  picture := model.projection
  coming := model.frames model.projection emptyAccepts symbols
  verdict := none
  finished := false
  cancelled := false
  notices := []

/-- Ends a run and gives notice of it, unless it has ended before. -/
def finish (run : Playback) : Playback :=
  if run.finished then run
  else { run with finished := true, notices := run.notices ++ [run.verdict] }

/-- Drops the frames to come and ends a run. -/
def close (run : Playback) : Playback :=
  finish { run with coming := [] }

/-- Ends a run on request, which is remembered unless it has ended before. -/
def cancel (run : Playback) : Playback :=
  if run.finished then run else close { run with cancelled := true }

/-- The next frame, if the run has not ended. The frame with the verdict ends it. -/
def next (run : Playback) : Option Frame × Playback :=
  if run.finished then (none, run)
  else
    match run.coming with
    | [] => (none, run.finish)
    | frame :: rest =>
      let advanced := { run with coming := rest }
      match frame.verdict with
      | none => (some frame, advanced)
      | some verdict => (some frame, finish { advanced with verdict := some verdict })

theorem finish_coming (run : Playback) : run.finish.coming = run.coming := by
  unfold finish
  split <;> rfl

theorem length_coming_close (run : Playback) : run.close.coming.length ≤ run.coming.length := by
  simp [close, finish_coming]

theorem length_coming_cancel (run : Playback) : run.cancel.coming.length ≤ run.coming.length := by
  unfold cancel
  split
  · exact Nat.le_refl _
  · exact length_coming_close _

/-- Every frame that is returned comes off the frames to come. -/
theorem coming_of_next {run after : Playback} {frame : Frame}
    (step : run.next = (some frame, after)) : run.coming = frame :: after.coming := by
  unfold next at step
  split at step
  · simp at step
  · split at step
    · simp at step
    · next first rest coming =>
      split at step
      all_goals
        obtain ⟨same, rfl⟩ := Prod.mk.inj step
        cases same
        simp [coming, finish_coming]

/-- A returned frame leaves fewer frames to come. -/
theorem length_coming_of_next {run after : Playback} {frame : Frame}
    (step : run.next = (some frame, after)) : after.coming.length < run.coming.length := by
  simp [coming_of_next step]

/-- All frames that are left, one by one. -/
def rest (run : Playback) : List Frame × Playback :=
  match step : run.next with
  | (none, after) => ([], after)
  | (some frame, after) =>
    have _ := length_coming_of_next step
    let (frames, last) := rest after
    (frame :: frames, last)
termination_by run.coming.length

end Playback

end Acceptor
