import Acceptor.Run.Drive

/-!
# Commands to a playback

Everything that can be asked of a run, as data, so that orders of events can be spoken about.
-/

namespace Acceptor

/-- What can be asked of a run. -/
inductive RunCommand (Failure : Type) where
  | next
  | rest
  | cancel
  | close
  | status
  | drive (receiver : Frame → Reaction Failure) (delay : Delay)

/-- What a run answers. -/
inductive RunReply (Failure : Type) where
  | nothing
  | frame (frame : Option Frame)
  | frames (frames : List Frame)
  | driven (driven : Driven Failure)

/-- The answer to a command, and the run after it. -/
def Playback.perform {Failure : Type} (command : RunCommand Failure) (run : Playback) :
    RunReply Failure × Playback :=
  match command with
  | .next =>
    let (frame, after) := run.next
    (.frame frame, after)
  | .rest =>
    let (frames, after) := run.rest
    (.frames frames, after)
  | .cancel => (.nothing, run.cancel)
  | .close => (.nothing, run.close)
  | .status => (.nothing, run)
  | .drive receiver delay =>
    let driven := run.drive receiver delay
    (.driven driven, driven.run)

end Acceptor
