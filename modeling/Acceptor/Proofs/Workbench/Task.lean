import Acceptor.Proofs.Run.Playback
import Acceptor.Proofs.Run.Story
import Acceptor.Proofs.Workbench.Change

/-!
# Tasks of an idle workbench

A task is what an idle workbench does at one go: it follows a command about its automaton, or it
shows a run on an input from the start to the frame with the verdict. The second takes two commands,
between which the workbench is busy (`perform_of_watch`). After either the workbench is idle again,
so tasks can follow each other in any order. A run that is stopped on its way is no task.
-/

namespace Acceptor

/-- The commands that change the automaton or ask about it, and neither concern a run nor write a
specification. -/
def Command.isDirect {Failure : Type} : Command Failure → Bool
  | .importSpec _ | .loadDefault | .reset | .addState _ | .addTransition .. | .setAccepting ..
  | .acceptStart | .undo | .check _ => true
  | .reimport | .exportSpec | .startRun _ | .onRun .. => false

/-- What an idle workbench does at one go. -/
inductive Task (Failure : Type) where
  | follow (command : Command Failure) (direct : command.isDirect = true)
  | watch (text : Option String)

/-- What comes of a task: the reply to a command, or the frames of a run and the run at its end. An
edit that is only said to be done shows in the automaton on the workbench. -/
inductive Answer (Failure : Type) where
  | reply (reply : Reply Failure)
  | watched (frames : List Frame) (run : Playback)

/-- A run that was shown to its end. -/
def Playback.completed (model : Automaton) (symbols : List Symbol) (emptyAccepts : Bool) :
    Playback where
  model := model
  symbols := symbols
  picture := model.projection
  coming := []
  verdict := some (model.check emptyAccepts symbols)
  finished := true
  cancelled := false
  notices := [some (model.check emptyAccepts symbols)]

/-- A run that was started shows all its frames and is completed by them. -/
theorem Playback.rest_start {model : Automaton} (valid : model.Valid) (symbols : List Symbol)
    (emptyAccepts : Bool) :
    (Playback.start model symbols emptyAccepts).rest =
      (model.frames model.projection emptyAccepts symbols,
        Playback.completed model symbols emptyAccepts) := by
  obtain ⟨left, concluded⟩ := model.exists_concluded_check emptyAccepts symbols
  have frames := model.frames_eq valid concluded
  have silence : ∀ frame ∈ model.opening :: model.story [] (model.check emptyAccepts symbols).steps,
      frame.verdict = none := by
    intro frame member
    rcases List.mem_cons.mp member with rfl | later
    · rfl
    · exact Automaton.verdict_of_mem_story later
  have running : (Playback.start model symbols emptyAccepts).finished = false := rfl
  rw [Playback.rest_of_coming running frames silence rfl, frames]
  rfl

namespace Workbench

variable {Failure : Type} {bench after : Workbench}

/-- Shows a run on an input from its start to its end. -/
def watch (bench : Workbench) (text : Option String) :
    Except WorkbenchError ((List Frame × Playback) × Workbench) := do
  let (run, begun) ← bench.startRun text
  let (frames, ended) := run.rest
  return ((frames, ended), begun.noteRun bench.runs.length run ended)

/-- The outcome of a task and the workbench after it, or the refusal. -/
def attemptTask (bench : Workbench) :
    Task Failure → Except WorkbenchError (Answer Failure × Workbench)
  | .follow command _ => (bench.attempt command).map fun (reply, after) => (.reply reply, after)
  | .watch text =>
    (bench.watch text).map fun ((frames, run), after) => (.watched frames run, after)

/-- The outcome of a task, be it a refusal, and the workbench after it. -/
def carryOut (bench : Workbench) (task : Task Failure) :
    Except WorkbenchError (Answer Failure) × Workbench :=
  match bench.attemptTask task with
  | .ok (answer, after) => (.ok answer, after)
  | .error error => (.error error, bench)

/-- The outcomes of a sequence of tasks, and the workbench after them. -/
def carryOutAll (bench : Workbench) :
    List (Task Failure) → List (Except WorkbenchError (Answer Failure)) × Workbench
  | [] => ([], bench)
  | task :: rest =>
    let (outcome, after) := bench.carryOut task
    let (outcomes, last) := after.carryOutAll rest
    (outcome :: outcomes, last)

/-- A run that is noted to be completed frees the workbench. -/
theorem noteRun_completed (idle : bench.busy = false) (model : Automaton) (symbols : List Symbol)
    (emptyAccepts : Bool) :
    noteRun { bench with
        runs := bench.runs ++ [Playback.start model symbols emptyAccepts]
        active := some bench.runs.length }
      bench.runs.length (Playback.start model symbols emptyAccepts)
      (Playback.completed model symbols emptyAccepts) =
      { bench with runs := bench.runs ++ [Playback.completed model symbols emptyAccepts] } := by
  have free : bench.active = none := by simpa [busy] using idle
  simp [noteRun, free, Playback.start, Playback.completed]

/-- On an idle workbench a run is shown completely, which leaves the run and nothing else. -/
theorem watch_of_idle (idle : bench.busy = false) (valid : bench.model.Valid)
    (text : Option String) :
    bench.watch text = .ok
      ((bench.model.frames bench.model.projection Automaton.emptyInputAccepted (inputSymbols? text),
          .completed bench.model (inputSymbols? text) Automaton.emptyInputAccepted),
        { bench with runs := bench.runs ++
          [.completed bench.model (inputSymbols? text) Automaton.emptyInputAccepted] }) := by
  refine bind_eq_ok_iff.mpr ⟨_, startRun_eq_ok_iff.mpr ⟨idle, rfl, rfl⟩, ?_⟩
  simp only [Playback.rest_start valid, noteRun_completed idle, pure_eq_ok_iff]

/-- To watch a run is to start it and to ask it for the rest of its frames. -/
theorem perform_of_watch {text : Option String} {frames : List Frame} {run : Playback}
    (shown : bench.watch text = .ok ((frames, run), after)) :
    (bench.perform (.startRun text : Command Failure)).2.perform
        (.onRun bench.runs.length .rest : Command Failure) =
      (.ok (.ran (.frames frames)), after) := by
  obtain ⟨⟨begun, busy⟩, started, shown⟩ := bind_eq_ok_iff.mp shown
  cases shown
  rw [perform_startRun started]
  obtain ⟨idle, rfl, rfl⟩ := startRun_eq_ok_iff.mp started
  simp [perform, attempt, onRun, Playback.perform]

end Workbench

end Acceptor
