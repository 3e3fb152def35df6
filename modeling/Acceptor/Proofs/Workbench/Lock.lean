import Acceptor.Proofs.Run.Playback
import Acceptor.Proofs.Workbench.Change

/-!
# The lock of the workbench

The lock is a number on the workbench, and it is released by the notice that a run gives when it
ends, however it ends. `Locked` is the invariant that ties the two together: the number is there
exactly if that run has not finished. Every change preserves it, so at most one run is on its way,
and a notice of any other run finds the lock of a later one in place.
-/

namespace Acceptor

namespace Workbench

variable {Failure : Type} {bench after : Workbench}

/-- Every run has given notice once it has finished and not before, and the number on the workbench
is that of the one run that has not finished. -/
structure Locked (bench : Workbench) : Prop where
  notified : ∀ run ∈ bench.runs, run.Notified
  active : ∀ number, bench.active = some number ↔
    ∃ run, bench.runs[number]? = some run ∧ run.finished = false

@[simp]
theorem commit_runs (model : Automaton) : (bench.commit model).runs = bench.runs := by
  unfold commit
  split <;> rfl

@[simp]
theorem commit_active (model : Automaton) : (bench.commit model).active = bench.active := by
  unfold commit
  split <;> rfl

theorem locked_of_create {model : Option Automaton} {limit : Option Int}
    (created : create model limit = .ok bench) : bench.Locked := by
  obtain ⟨limit, -, rfl⟩ := map_eq_ok_iff.mp created
  exact ⟨by simp, by simp⟩

/-- The lock depends on the runs and on the number only. -/
theorem Locked.congr (locked : bench.Locked) (runs : after.runs = bench.runs)
    (active : after.active = bench.active) : after.Locked := by
  refine ⟨?_, ?_⟩
  · rw [runs]
    exact locked.notified
  · rw [runs, active]
    exact locked.active

/-- The number of a run that has not finished is the one on the workbench. -/
theorem Locked.active_of_running (locked : bench.Locked) {number : Nat} {run : Playback}
    (found : bench.runs[number]? = some run) (running : run.finished = false) :
    bench.active = some number :=
  (locked.active number).mpr ⟨run, found, running⟩

/-- The lock of an idle workbench is taken by a new run. -/
theorem Locked.startRun (locked : bench.Locked) (idle : bench.busy = false) {run : Playback}
    (notified : run.Notified) (running : run.finished = false) :
    Locked { bench with runs := bench.runs ++ [run], active := some bench.runs.length } where
  notified := by
    intro other member
    rcases List.mem_append.mp member with earlier | new
    · exact locked.notified other earlier
    · rwa [List.mem_singleton.mp new]
  active := by
    intro number
    constructor
    · rintro ⟨⟩
      exact ⟨run, List.getElem?_concat_length, running⟩
    · rintro ⟨other, there, unfinished⟩
      have bound := (List.getElem?_eq_some_iff.mp there).1
      rw [List.length_append, List.length_singleton] at bound
      by_cases new : number = bench.runs.length
      · rw [new]
      · -- An earlier run that has not finished would keep the workbench busy.
        rw [List.getElem?_append_left (by omega)] at there
        have active := locked.active_of_running there unfinished
        simp [busy, active] at idle

/-- A run gives notice exactly when a command finishes it. -/
theorem notices_lt_iff {run : Playback} (notified : run.Notified) (command : RunCommand Failure) :
    run.notices.length < (run.perform command).2.notices.length ↔
      run.finished = false ∧ (run.perform command).2.finished = true := by
  have after := notified.perform command
  unfold Playback.Notified at notified after
  rw [notified, after]
  cases finished : run.finished with
  | true => simp [(Playback.perform_of_finished finished command).2.finished]
  | false => cases (run.perform command).2.finished <;> simp

/-- A command releases the lock exactly if it finishes the run that holds it. -/
theorem noteRun_active {run : Playback} (notified : run.Notified) (number : Nat)
    (command : RunCommand Failure) :
    (bench.noteRun number run (run.perform command).2).active =
      if (run.finished = false ∧ (run.perform command).2.finished = true) ∧
        bench.active = some number then none else bench.active := by
  simp only [noteRun, ← notices_lt_iff notified command, Bool.and_eq_true, decide_eq_true_eq,
    beq_iff_eq]

/-- A command to a run keeps the lock, or releases it by ending the run that holds it. -/
theorem Locked.noteRun (locked : bench.Locked) {number : Nat} {run : Playback}
    (found : bench.runs[number]? = some run) (command : RunCommand Failure) :
    (bench.noteRun number run (run.perform command).2).Locked where
  notified := by
    intro other member
    have notified := locked.notified run (List.mem_of_getElem? found)
    rcases List.mem_or_eq_of_mem_set member with earlier | rfl
    · exact locked.notified other earlier
    · exact notified.perform command
  active := by
    intro other
    have notified := locked.notified run (List.mem_of_getElem? found)
    have holds : bench.active = some number ↔ run.finished = false := by
      rw [locked.active, found]
      simp
    have bound := (List.getElem?_eq_some_iff.mp found).1
    rw [noteRun_active notified]
    by_cases same : other = number
    · subst same
      have there : (bench.noteRun other run (run.perform command).2).runs[other]? =
          some (run.perform command).2 := List.getElem?_set_self bound
      rw [there]
      cases finished : run.finished with
      | true =>
        have stays := (Playback.perform_of_finished finished command).2.finished
        simp [holds, finished, stays]
      | false =>
        cases ended : (run.perform command).2.finished <;> simp [holds, finished, ended]
    · have there : (bench.noteRun number run (run.perform command).2).runs[other]? =
          bench.runs[other]? := List.getElem?_set_ne (Ne.symm same)
      rw [there, ← locked.active other]
      split
      · next ends => simp [ends.2, Ne.symm same]
      · rfl

/-- Every change preserves the lock. -/
theorem Locked.change (locked : bench.Locked) {command : Command Failure}
    (change : Change bench command after) : after.Locked := by
  cases change with
  | nothing => exact locked
  | commit idle made => exact locked.congr (commit_runs _) (commit_active _)
  | undo idle history => exact locked.congr rfl rfl
  | startRun idle text => exact locked.startRun idle (Playback.notified_start _ _ _) rfl
  | run found command => exact locked.noteRun found command

/-- The lock holds in every state that a workbench can reach. -/
theorem Locked.performAll (locked : bench.Locked) (commands : List (Command Failure)) :
    (bench.performAll commands).Locked :=
  performAll_induction Locked (fun _ _ _ change locked => locked.change change) commands locked

/-- A workbench is busy exactly if one of its runs has not finished. -/
theorem Locked.busy_iff (locked : bench.Locked) :
    bench.busy = true ↔ ∃ run ∈ bench.runs, run.finished = false := by
  rw [busy, Option.isSome_iff_exists]
  constructor
  · rintro ⟨number, active⟩
    obtain ⟨run, found, running⟩ := (locked.active number).mp active
    exact ⟨run, List.mem_of_getElem? found, running⟩
  · rintro ⟨run, member, running⟩
    obtain ⟨number, found⟩ := List.mem_iff_getElem?.mp member
    exact ⟨number, locked.active_of_running found running⟩

/-- A command to a run that has finished releases no lock. -/
theorem Locked.active_of_finished (locked : bench.Locked) {number : Nat} {run : Playback}
    (found : bench.runs[number]? = some run) (finished : run.finished = true)
    (command : RunCommand Failure) :
    (bench.perform (.onRun number command)).2.active = bench.active := by
  have notified := locked.notified run (List.mem_of_getElem? found)
  rw [perform_onRun found, noteRun_active notified, finished]
  simp

/-- What users of a workbench see of its lock. -/
structure Exclusive (Failure : Type) (bench : Workbench) : Prop where
  /-- At most one run is on its way. -/
  alone : ∀ (first second : Nat) (left right : Playback), bench.runs[first]? = some left →
    bench.runs[second]? = some right → left.finished = false → right.finished = false →
      first = second
  /-- The workbench is busy exactly while one is, -/
  busy_iff : bench.busy = true ↔ ∃ run ∈ bench.runs, run.finished = false
  /-- and that run is the active one. -/
  active : ∀ (number : Nat) (run : Playback), bench.runs[number]? = some run →
    run.finished = false → bench.active = some number
  /-- A busy workbench refuses the guarded commands before anything else and stays as it is. -/
  refuses : bench.busy = true → ∀ (command : Command Failure) operation,
    command.guard? = some operation → bench.perform command = (.error (.busy operation), bench)
  /-- An idle workbench refuses nothing for being busy. -/
  admits : bench.busy = false → ∀ (command : Command Failure) operation,
    (bench.perform command).1 ≠ .error (.busy operation)
  /-- A run that has finished releases no lock any more. -/
  unaffected : ∀ (number : Nat) (run : Playback) (command : RunCommand Failure),
    bench.runs[number]? = some run → run.finished = true →
      (bench.perform (.onRun number command)).2.active = bench.active

/-- The lock holds in every state of a workbench, in whatever order it and all the runs that were
ever started on it are used. -/
theorem exclusive_of_performAll {model : Option Automaton} {limit : Option Int} {start : Workbench}
    (created : create model limit = .ok start) (commands : List (Command Failure)) :
    Exclusive Failure (start.performAll commands) := by
  have locked := (locked_of_create created).performAll commands
  refine ⟨?_, locked.busy_iff, ?_, ?_, ?_, ?_⟩
  · intro first second left right here there leftRunning rightRunning
    have active := locked.active_of_running here leftRunning
    rw [locked.active_of_running there rightRunning] at active
    exact (Option.some.inj active).symm
  · intro number run found running
    exact locked.active_of_running found running
  · intro busy command operation guarded
    exact perform_of_busy busy guarded
  · intro idle command operation
    exact not_busy_of_perform idle command operation
  · intro number run command found finished
    exact locked.active_of_finished found finished command

/-- A run is closed, another one is started, and the first one is cancelled after that. -/
def overlapping : List (Command Unit) :=
  [.startRun (some "A"), .onRun 0 .next, .onRun 0 .close, .startRun (some "C"), .onRun 0 .cancel]

/-- The lock of the second run is not released by the first one, and keeps the automaton. -/
theorem exclusive_of_overlapping :
    ∃ start, create none (some 2) = .ok start ∧
      (start.performAll overlapping).active = some 1 ∧
      (start.performAll overlapping).perform (.reset : Command Unit) =
        (.error (.busy .reset), start.performAll overlapping) := by
  have created : create none (some 2) = .ok ⟨Automaton.empty, [], 2, [], none⟩ := rfl
  have lock := exclusive_of_performAll created overlapping
  exact ⟨_, created, rfl, lock.refuses rfl .reset .reset rfl⟩

end Workbench

end Acceptor
