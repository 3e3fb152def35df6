import Acceptor.Run.Delay
import Acceptor.Run.Playback

/-!
# Driving a playback

Handing the frames of a playback to a receiver, with a wait between two of them. The receiver may
cancel or close the run from within, and it may break off with a failure. However the driving
ends, the run is closed.
-/

namespace Acceptor

/-- What a receiver does on a frame, in this order. -/
structure Reaction (Failure : Type) where
  cancels : Bool
  closes : Bool
  fails : Option Failure
  deriving DecidableEq, Repr

/-- A receiver that takes a frame and does nothing to the run. -/
def Reaction.takes {Failure : Type} : Reaction Failure :=
  ⟨false, false, none⟩

/-- The run after a reaction. -/
def Reaction.applyTo {Failure : Type} (reaction : Reaction Failure) (run : Playback) : Playback :=
  let mayCancel := if reaction.cancels then run.cancel else run
  if reaction.closes then mayCancel.close else mayCancel

/-- A reaction brings no frames back. -/
theorem Reaction.length_coming_applyTo {Failure : Type} (reaction : Reaction Failure)
    (run : Playback) : (reaction.applyTo run).coming.length ≤ run.coming.length := by
  have afterCancel :
      (if reaction.cancels then run.cancel else run).coming.length ≤ run.coming.length := by
    split
    · exact Playback.length_coming_cancel run
    · exact Nat.le_refl _
  unfold applyTo
  dsimp only
  split
  · exact Nat.le_trans (Playback.length_coming_close _) afterCancel
  · exact afterCancel

/-- One thing that happens while a run is driven. -/
inductive DriveEvent where
  | wait (delay : Delay)
  | frame (frame : Frame)
  deriving DecidableEq, Repr

/-- A driven run: what happened, the run afterwards, and the verdict or the receiver's failure. -/
structure Driven (Failure : Type) where
  events : List DriveEvent
  run : Playback
  result : Except Failure (Option Verdict)

namespace Driven

/-- The frames that were handed over. -/
def frames {Failure : Type} (driven : Driven Failure) : List Frame :=
  driven.events.filterMap fun
    | .frame frame => some frame
    | .wait _ => none

/-- The waits between them. -/
def waits {Failure : Type} (driven : Driven Failure) : List Delay :=
  driven.events.filterMap fun
    | .wait delay => some delay
    | .frame _ => none

end Driven

namespace Playback

/-- What happens for one frame: a wait before it, except before the first, and its delivery. -/
def delivery (delay : Delay) (frame : Frame) : List DriveEvent :=
  (if 1 < frame.sequence && delay.waits then [.wait delay] else []) ++ [.frame frame]

/-- Hands the frames of a run to a receiver until the run has ended or the receiver fails. The run
in the result is not closed yet. -/
def deliver {Failure : Type} (receiver : Frame → Reaction Failure) (delay : Delay)
    (run : Playback) : List DriveEvent × Playback × Option Failure :=
  match step : run.next with
  | (none, after) => ([], after, none)
  | (some frame, after) =>
    have _ := Nat.lt_of_le_of_lt ((receiver frame).length_coming_applyTo after)
      (length_coming_of_next step)
    let reacted := (receiver frame).applyTo after
    match (receiver frame).fails with
    | some failure => (delivery delay frame, reacted, some failure)
    | none =>
      let (events, last, failure) := deliver receiver delay reacted
      (delivery delay frame ++ events, last, failure)
termination_by run.coming.length

/-- Drives a run: hands its frames over and closes it in any case. -/
def drive {Failure : Type} (receiver : Frame → Reaction Failure) (delay : Delay)
    (run : Playback) : Driven Failure :=
  let (events, last, failure) := run.deliver receiver delay
  let closed := last.close
  let result := match failure with
    | some failure => .error failure
    | none => .ok closed.verdict
  ⟨events, closed, result⟩

end Playback

end Acceptor
