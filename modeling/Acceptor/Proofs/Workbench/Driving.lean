import Acceptor.Proofs.Run.Driving
import Acceptor.Proofs.Workbench.Contents
import Acceptor.Proofs.Workbench.Lock

/-!
# Driving a run of a workbench

Every run of a workbench has been started on a valid automaton and has been asked for steps since
(`exists_origin`), so what is known about driving a playback holds of it. Driving it releases the
lock if it holds it, and leaves the lock of another run in place (`Locked.active_of_drive`).
-/

namespace Acceptor

namespace Workbench

/-- What has become of a run of a workbench, and of the lock, by driving the run. -/
structure RunDriven {Failure : Type} (bench : Workbench) (number : Nat) (run : Playback)
    (receiver : Frame → Reaction Failure) (delay : Delay) : Prop where
  /-- The run was started on a valid automaton and has taken some steps, and it is handed over. -/
  handedOver : ∃ model symbols steps, model.Valid ∧
    run = (Playback.start model symbols Automaton.emptyInputAccepted).afterSteps steps ∧
    HandedOver (model.frames model.projection Automaton.emptyInputAccepted symbols)
      ((Playback.start model symbols Automaton.emptyInputAccepted).shownBy steps)
      (model.check Automaton.emptyInputAccepted symbols) run receiver delay
      (run.drive receiver delay)
  answered : (bench.perform (.onRun number (.drive receiver delay))).1 =
    .ok (.ran (.driven (run.drive receiver delay)))
  noted : (bench.perform (.onRun number (.drive receiver delay))).2.runs[number]? =
    some (run.drive receiver delay).run
  /-- The run does not hold the lock, -/
  released : (bench.perform (.onRun number (.drive receiver delay))).2.active ≠ some number
  /-- and another run holds it if it did before. -/
  untouched : ∀ other, other ≠ number →
    ((bench.perform (.onRun number (.drive receiver delay))).2.active = some other ↔
      bench.active = some other)

variable {Failure : Type} {bench : Workbench} {number : Nat} {run : Playback}

/-- Every run of a workbench was started on a valid automaton and has taken some steps. -/
theorem exists_origin {initial : Option Automaton} {limit : Option Int} {start : Workbench}
    (given : ∀ first ∈ initial, first.Valid) (created : create initial limit = .ok start)
    (commands : List (Command Failure)) :
    ∀ run ∈ (start.performAll commands).runs, ∃ model symbols steps, model.Valid ∧
      run = (Playback.start model symbols Automaton.emptyInputAccepted).afterSteps steps := by
  induction commands using List.reverseRecOn with
  | nil =>
    obtain ⟨limit, -, rfl⟩ := map_eq_ok_iff.mp created
    exact nofun
  | append_singleton commands command inductionHypothesis =>
    have valid : (start.performAll commands).model.Valid :=
      forall_mem_timeline (fun _ _ made => made.valid) created Automaton.orderly_empty.toValid given
        commands _ List.mem_cons_self
    rw [performAll_concat]
    generalize start.performAll commands = before at valid inductionHypothesis ⊢
    have change := change_of_perform before command
    generalize (before.perform command).2 = after at change ⊢
    cases change with
    | nothing => exact inductionHypothesis
    | commit idle made =>
      rw [commit_runs]
      exact inductionHypothesis
    | undo idle history => exact inductionHypothesis
    | startRun idle text =>
      intro run member
      rcases List.mem_append.mp member with earlier | new
      · exact inductionHypothesis run earlier
      · exact ⟨_, _, [], valid, List.mem_singleton.mp new⟩
    | @run number driven found asked =>
      intro run member
      rcases List.mem_or_eq_of_mem_set member with earlier | rfl
      · exact inductionHypothesis run earlier
      · obtain ⟨model, symbols, steps, valid, rfl⟩ :=
          inductionHypothesis driven (List.mem_of_getElem? found)
        obtain ⟨further, same, -⟩ := Playback.exists_steps_of_perform asked
          ((Playback.start model symbols Automaton.emptyInputAccepted).afterSteps steps)
        exact ⟨model, symbols, steps ++ further, valid, by
          rw [same, Playback.afterSteps_append]⟩

/-- Driving a run leaves the lock to the others, and takes it from this one. -/
theorem Locked.active_of_drive (locked : bench.Locked) (found : bench.runs[number]? = some run)
    (receiver : Frame → Reaction Failure) (delay : Delay) :
    (bench.perform (.onRun number (.drive receiver delay))).2.active =
      if bench.active = some number then none else bench.active := by
  have notified := locked.notified run (List.mem_of_getElem? found)
  have finished : (run.perform (.drive receiver delay)).2.finished = true :=
    Playback.finish_finished _
  have holds : bench.active = some number ↔ run.finished = false := by
    rw [locked.active, found]
    simp
  rw [perform_onRun found, noteRun_active notified]
  split
  · next ends => rw [if_pos ends.2]
  · next stays => rw [if_neg fun active => stays ⟨⟨holds.mp active, finished⟩, active⟩]

/-- A run is handed over whenever it is driven, in whatever order it was asked for frames, cancelled
and closed before; and so is a run of a workbench, whatever was done to it and to other runs, which
holds no lock afterwards and has left that of another run in place. -/
theorem handedOver_of_drive {Failure : Type} (receiver : Frame → Reaction Failure) (delay : Delay) :
    (∀ model : Automaton, model.Valid → ∀ (symbols : List Symbol) (emptyAccepts : Bool)
      (steps : List RunStep),
      HandedOver (model.frames model.projection emptyAccepts symbols)
        ((Playback.start model symbols emptyAccepts).shownBy steps)
        (model.check emptyAccepts symbols)
        ((Playback.start model symbols emptyAccepts).afterSteps steps) receiver delay
        (((Playback.start model symbols emptyAccepts).afterSteps steps).drive receiver delay)) ∧
      ∀ (initial : Option Automaton) (limit : Option Int) (start : Workbench),
        (∀ first ∈ initial, first.Valid) → create initial limit = .ok start →
          ∀ (commands : List (Command Failure)) (number : Nat) (run : Playback),
            (start.performAll commands).runs[number]? = some run →
              RunDriven (start.performAll commands) number run receiver delay := by
  refine ⟨fun model valid symbols emptyAccepts steps =>
    Playback.handedOver_of_afterSteps valid symbols emptyAccepts steps receiver delay, ?_⟩
  intro initial limit start given created commands number run found
  have locked := (locked_of_create created).performAll commands
  have origin := exists_origin given created commands run (List.mem_of_getElem? found)
  generalize start.performAll commands = bench at found locked
  have lock := locked.active_of_drive found receiver delay
  refine ⟨?_, ?_, ?_, ?_, ?_⟩
  · obtain ⟨model, symbols, steps, valid, rfl⟩ := origin
    exact ⟨model, symbols, steps, valid, rfl,
      Playback.handedOver_of_afterSteps valid symbols _ steps receiver delay⟩
  · simp only [perform, attempt, onRun, found, Option.map_some]
    rfl
  · rw [perform_onRun found]
    exact List.getElem?_set_self (List.getElem?_eq_some_iff.mp found).1
  · rw [lock]
    split
    · exact (Option.some_ne_none number).symm
    · assumption
  · intro other different
    rw [lock]
    split
    · next holds => simp [holds, Ne.symm different]
    · rfl

/-- A receiver that breaks off on the third frame. -/
def impatient (frame : Frame) : Reaction String :=
  if frame.sequence = 3 then ⟨false, false, some "enough"⟩ else .takes

/-- A run is closed after its first frame, and another one is started. -/
def turns : List (Command String) :=
  [.startRun (some "in,out"), .onRun 0 .next, .onRun 0 .close, .startRun (some "in,")]

/-- The failure on the third frame of a walk through the corridor comes out, with two waits before
it. Driving the first of two runs, which is over, leaves the lock of the second one alone. -/
theorem handedOver_of_impatient : Automaton.corridor.Valid ∧
    let driven := ((Playback.start Automaton.corridor ["in", "out"] true).afterSteps [.next]).drive
      impatient (.seconds 1 0)
    driven.frames.map Frame.sequence = [2, 3] ∧ driven.waits.length = 2 ∧
      driven.result = .error "enough" ∧ driven.run.notices.length = 1 ∧
      ∃ start, create (some Automaton.corridor) (some 2) = .ok start ∧
        ∀ receiver : Frame → Reaction String, ∀ delay,
          ((start.performAll turns).perform (.onRun 0 (.drive receiver delay))).2.active = some 1 ∧
          ((start.performAll turns).perform (.onRun 1 (.drive receiver delay))).2.active ≠
            some 1 := by
  have valid := Automaton.valid_corridor
  have alone := (handedOver_of_drive impatient (.seconds 1 0)).1 Automaton.corridor valid
    ["in", "out"] true [.next]
  have frames :
      (((Playback.start Automaton.corridor ["in", "out"] true).afterSteps [.next]).drive impatient
        (.seconds 1 0)).frames =
      ((Automaton.corridor.frames Automaton.corridor.projection true
        ["in", "out"]).drop 1).take 2 := by
    decide +kernel
  have created : create (some Automaton.corridor) (some 2) =
      .ok ⟨Automaton.corridor, [], 2, [], none⟩ := rfl
  have given : ∀ first ∈ some Automaton.corridor, first.Valid := by simpa using valid
  refine ⟨valid, ?_, ?_, ?_, alone.told, _, created, fun receiver delay => ⟨?_, ?_⟩⟩
  · rw [frames]
    rfl
  · rw [alone.waits, frames]
    rfl
  · exact alone.raised _ (by rw [frames]; exact .tail _ (.head _)) _ rfl
  · have first := (handedOver_of_drive receiver delay).2 _ _ _ given created turns 0 _ rfl
    exact (first.untouched 1 (by decide)).mpr rfl
  · have second := (handedOver_of_drive receiver delay).2 _ _ _ given created turns 1 _ rfl
    exact second.released

end Workbench

end Acceptor
