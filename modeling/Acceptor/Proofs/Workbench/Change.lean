import Acceptor.Proofs.Success
import Acceptor.Workbench.Command

/-!
# What a command changes on a workbench

`Change` lists everything that can become of a workbench by one command, and `change_of_perform`
says that nothing else does. Most operations are guarded: a busy workbench refuses them before it
looks at anything else (`perform_of_busy`), and an idle one refuses nothing for being busy
(`not_busy_of_perform`).
-/

namespace Acceptor

/-- The automata that operations put on a workbench in place of one. -/
inductive Made (model : Automaton) : Automaton → Prop where
  | read {text made} (parsed : Spec.parseInput text = .ok made) : Made model made
  | empty : Made model Automaton.empty
  | stateAdded (accepting : Bool) : Made model (model.addState accepting).1
  | transitionAdded {source target symbol made}
      (added : model.addTransition source target symbol = .ok made) : Made model made
  | acceptingSet {id accepting made} (set : model.setAccepting id accepting = .ok made) :
      Made model made

namespace Workbench

/-- What can become of a workbench by one command. -/
inductive Change {Failure : Type} (bench : Workbench) : Command Failure → Workbench → Prop where
  | nothing {command} : Change bench command bench
  | commit {command model} (idle : bench.busy = false) (made : Made bench.model model) :
      Change bench command (bench.commit model)
  | undo {model earlier} (idle : bench.busy = false) (history : bench.history = model :: earlier) :
      Change bench .undo { bench with model := model, history := earlier }
  | startRun (idle : bench.busy = false) (text : Option String) :
      Change bench (.startRun text) { bench with
        runs := bench.runs ++
          [Playback.start bench.model (inputSymbols? text) Automaton.emptyInputAccepted]
        active := some bench.runs.length }
  | run {number run} (found : bench.runs[number]? = some run) (command : RunCommand Failure) :
      Change bench (.onRun number command) (bench.noteRun number run (run.perform command).2)

variable {Failure : Type} {bench after : Workbench} {operation : Operation}

theorem requireIdle_eq_ok_iff : bench.requireIdle operation = .ok () ↔ bench.busy = false := by
  unfold requireIdle
  cases bench.busy <;> simp

/-- A specification is imported exactly if the workbench is idle and the text can be read. -/
theorem importSpec_eq_ok_iff {text : Option String} {model : Automaton} :
    bench.importSpec text = .ok (model, after) ↔
      bench.busy = false ∧ Spec.parseInput text = .ok model ∧ after = bench.commit model := by
  unfold importSpec
  rw [check_eq_ok_iff, requireIdle_eq_ok_iff, bind_eq_ok_iff]
  simp only [mapError_eq_ok_iff, pure_eq_ok_iff, Prod.mk.injEq]
  constructor
  · rintro ⟨idle, model, read, rfl, rfl⟩
    exact ⟨idle, read, rfl⟩
  · rintro ⟨idle, read, rfl⟩
    exact ⟨idle, model, read, rfl, rfl⟩

theorem reset_eq_ok_iff {model : Automaton} :
    bench.reset = .ok (model, after) ↔ bench.busy = false ∧ model = Automaton.empty ∧
      after = bench.commit Automaton.empty := by
  unfold reset
  simp only [check_eq_ok_iff, requireIdle_eq_ok_iff, pure_eq_ok_iff, Prod.mk.injEq,
    eq_comm (b := model), eq_comm (b := after)]

/-- A state is added exactly if the workbench is idle. -/
theorem addState_eq_ok_iff {accepting : Bool} {id : StateId} :
    bench.addState accepting = .ok (id, after) ↔ bench.busy = false ∧
      id = (bench.model.addState accepting).2 ∧
      after = bench.commit (bench.model.addState accepting).1 := by
  unfold addState
  simp only [check_eq_ok_iff, requireIdle_eq_ok_iff, pure_eq_ok_iff, Prod.mk.injEq,
    eq_comm (b := id), eq_comm (b := after)]

theorem addTransition_eq_ok_iff {source target : StateId} {symbol : Symbol} :
    bench.addTransition source target symbol = .ok after ↔ bench.busy = false ∧
      ∃ model, bench.model.addTransition source target symbol = .ok model ∧
        after = bench.commit model := by
  unfold addTransition
  rw [check_eq_ok_iff, requireIdle_eq_ok_iff, bind_eq_ok_iff]
  simp only [mapError_eq_ok_iff, pure_eq_ok_iff, eq_comm (a := after)]

theorem setAccepting_eq_ok_iff {id : StateId} {accepting : Bool} :
    bench.setAccepting id accepting = .ok after ↔ bench.busy = false ∧
      ∃ model, bench.model.setAccepting id accepting = .ok model ∧
        after = bench.commit model := by
  unfold setAccepting
  rw [check_eq_ok_iff, requireIdle_eq_ok_iff, bind_eq_ok_iff]
  simp only [mapError_eq_ok_iff, pure_eq_ok_iff, eq_comm (a := after)]

/-- Going back succeeds exactly if the workbench is idle, also where there is nothing to go back
to. -/
theorem undo_eq_ok_iff {undone : Bool} :
    bench.undo = .ok (undone, after) ↔ bench.busy = false ∧
      ((bench.history = [] ∧ undone = false ∧ after = bench) ∨
        ∃ model earlier, bench.history = model :: earlier ∧ undone = true ∧
          after = { bench with model := model, history := earlier }) := by
  unfold undo
  rw [check_eq_ok_iff, requireIdle_eq_ok_iff]
  refine and_congr_right fun _ => ?_
  cases history : bench.history with
  | nil =>
    rw [pure_eq_ok_iff, Prod.mk.injEq]
    constructor
    · rintro ⟨rfl, rfl⟩
      exact .inl ⟨rfl, rfl, rfl⟩
    · rintro (⟨-, rfl, rfl⟩ | ⟨_, _, ⟨⟩, -⟩)
      exact ⟨rfl, rfl⟩
  | cons model earlier =>
    rw [pure_eq_ok_iff, Prod.mk.injEq]
    constructor
    · rintro ⟨rfl, rfl⟩
      exact .inr ⟨model, earlier, rfl, rfl, rfl⟩
    · rintro (⟨⟨⟩, -⟩ | ⟨_, _, ⟨⟩, rfl, rfl⟩)
      exact ⟨rfl, rfl⟩

/-- A run is started exactly if the workbench is idle. -/
theorem startRun_eq_ok_iff {text : Option String} {run : Playback} :
    bench.startRun text = .ok (run, after) ↔ bench.busy = false ∧
      run = Playback.start bench.model (inputSymbols? text) Automaton.emptyInputAccepted ∧
        after = { bench with runs := bench.runs ++ [run], active := some bench.runs.length } := by
  unfold startRun
  simp only [check_eq_ok_iff, requireIdle_eq_ok_iff, pure_eq_ok_iff, Prod.mk.injEq]
  refine and_congr_right fun _ => ?_
  constructor
  · rintro ⟨rfl, rfl⟩
    exact ⟨rfl, rfl⟩
  · rintro ⟨rfl, rfl⟩
    exact ⟨rfl, rfl⟩

theorem change_of_importSpec {command : Command Failure} {text : Option String} {model : Automaton}
    (imported : bench.importSpec text = .ok (model, after)) : Change bench command after := by
  obtain ⟨idle, read, rfl⟩ := importSpec_eq_ok_iff.mp imported
  exact .commit idle (.read read)

theorem change_of_setAccepting {command : Command Failure} {id : StateId} {accepting : Bool}
    (done : bench.setAccepting id accepting = .ok after) : Change bench command after := by
  obtain ⟨idle, model, set, rfl⟩ := setAccepting_eq_ok_iff.mp done
  exact .commit idle (.acceptingSet set)

/-- An answered command makes one of the listed changes. -/
theorem change_of_attempt {command : Command Failure} {reply : Reply Failure}
    (answered : bench.attempt command = .ok (reply, after)) : Change bench command after := by
  cases command with
  | importSpec text =>
    obtain ⟨⟨model, after⟩, imported, same⟩ := map_eq_ok_iff.mp answered
    cases same
    exact change_of_importSpec imported
  | loadDefault =>
    obtain ⟨⟨model, after⟩, imported, same⟩ := map_eq_ok_iff.mp answered
    cases same
    exact change_of_importSpec imported
  | reimport =>
    obtain ⟨text, written, answered⟩ := bind_eq_ok_iff.mp answered
    obtain ⟨⟨model, after⟩, imported, same⟩ := map_eq_ok_iff.mp answered
    cases same
    exact change_of_importSpec imported
  | exportSpec =>
    obtain ⟨text, written, same⟩ := map_eq_ok_iff.mp answered
    cases same
    exact .nothing
  | reset =>
    obtain ⟨⟨model, after⟩, done, same⟩ := map_eq_ok_iff.mp answered
    cases same
    obtain ⟨idle, -, rfl⟩ := reset_eq_ok_iff.mp done
    exact .commit idle .empty
  | addState accepting =>
    obtain ⟨⟨id, after⟩, done, same⟩ := map_eq_ok_iff.mp answered
    cases same
    obtain ⟨idle, -, rfl⟩ := addState_eq_ok_iff.mp done
    exact .commit idle (.stateAdded accepting)
  | addTransition source target symbol =>
    obtain ⟨after, done, same⟩ := map_eq_ok_iff.mp answered
    cases same
    obtain ⟨idle, model, added, rfl⟩ := addTransition_eq_ok_iff.mp done
    exact .commit idle (.transitionAdded added)
  | setAccepting id accepting =>
    obtain ⟨after, done, same⟩ := map_eq_ok_iff.mp answered
    cases same
    exact change_of_setAccepting done
  | acceptStart =>
    obtain ⟨after, done, same⟩ := map_eq_ok_iff.mp answered
    cases same
    exact change_of_setAccepting done
  | undo =>
    obtain ⟨⟨undone, after⟩, done, same⟩ := map_eq_ok_iff.mp answered
    cases same
    obtain ⟨idle, ⟨-, -, rfl⟩ | ⟨model, earlier, history, -, rfl⟩⟩ := undo_eq_ok_iff.mp done
    · exact .nothing
    · exact .undo idle history
  | check text =>
    cases answered
    exact .nothing
  | startRun text =>
    obtain ⟨⟨run, after⟩, done, same⟩ := map_eq_ok_iff.mp answered
    cases same
    obtain ⟨idle, rfl, rfl⟩ := startRun_eq_ok_iff.mp done
    exact .startRun idle text
  | onRun number command =>
    simp only [attempt, onRun] at answered
    cases found : bench.runs[number]? with
    | none =>
      rw [found] at answered
      cases answered
      exact .nothing
    | some run =>
      rw [found] at answered
      cases answered
      exact .run found command

/-- Every command makes one of the listed changes. -/
theorem change_of_perform (bench : Workbench) (command : Command Failure) :
    Change bench command (bench.perform command).2 := by
  unfold perform
  cases answered : bench.attempt command with
  | ok answer => exact change_of_attempt answered
  | error error => exact .nothing

/-- A command to a run leaves a note of how the run has gone on. -/
theorem perform_onRun {number : Nat} {run : Playback} (found : bench.runs[number]? = some run)
    (command : RunCommand Failure) :
    (bench.perform (.onRun number command)).2 =
      bench.noteRun number run (run.perform command).2 := by
  simp [perform, attempt, onRun, found]

/-- A command to a run leaves all automata as they are. -/
theorem automata_onRun (bench : Workbench) (number : Nat) (command : RunCommand Failure) :
    (bench.perform (.onRun number command)).2.model = bench.model ∧
      (bench.perform (.onRun number command)).2.history = bench.history := by
  cases found : bench.runs[number]? with
  | none => simp [perform, attempt, onRun, found]
  | some run =>
    rw [perform_onRun found]
    exact ⟨rfl, rfl⟩

/-- A run that can be started is started by its command. -/
theorem perform_startRun {text : Option String} {run : Playback}
    (started : bench.startRun text = .ok (run, after)) :
    (bench.perform (.startRun text : Command Failure)).2 = after := by
  rw [perform, attempt, started]
  rfl

theorem performAll_append (bench : Workbench) (earlier later : List (Command Failure)) :
    bench.performAll (earlier ++ later) = (bench.performAll earlier).performAll later :=
  List.foldl_append

theorem performAll_concat (bench : Workbench) (commands : List (Command Failure))
    (command : Command Failure) :
    bench.performAll (commands ++ [command]) = ((bench.performAll commands).perform command).2 :=
  performAll_append bench commands [command]

/-- What every change preserves holds after any sequence of commands. -/
theorem performAll_induction (property : Workbench → Prop)
    (preserved : ∀ before (command : Command Failure) after, Change before command after →
      property before → property after)
    (commands : List (Command Failure)) (holds : property bench) :
    property (bench.performAll commands) := by
  induction commands generalizing bench with
  | nil => exact holds
  | cons command rest inductionHypothesis =>
    exact inductionHypothesis (preserved _ _ _ (change_of_perform bench command) holds)

end Workbench

/-- The operation that a busy workbench refuses a command as. -/
def Command.guard? {Failure : Type} : Command Failure → Option Operation
  | .importSpec _ => some .importSpec
  | .loadDefault => some .importSpec
  | .reset => some .reset
  | .addState _ => some .addState
  | .addTransition .. => some .addTransition
  | .setAccepting .. => some .setAccepting
  | .acceptStart => some .setAccepting
  | .undo => some .undo
  | .startRun _ => some .startRun
  | .reimport => none
  | .exportSpec => none
  | .check _ => none
  | .onRun .. => none

namespace Workbench

variable {Failure : Type} {bench : Workbench} {command : Command Failure} {operation : Operation}

theorem requireIdle_of_busy (busy : bench.busy = true) (operation : Operation) :
    bench.requireIdle operation = .error (.busy operation) := by
  unfold requireIdle
  rw [if_pos busy]

/-- A busy workbench refuses the guarded commands, whatever else could be said against them, and
stays as it is. -/
theorem perform_of_busy (busy : bench.busy = true) (guarded : command.guard? = some operation) :
    bench.perform command = (.error (.busy operation), bench) := by
  suffices bench.attempt command = .error (.busy operation) by rw [perform, this]
  have refused := requireIdle_of_busy busy
  cases command <;> cases guarded
  all_goals
    simp only [attempt, importSpec, loadDefault, reset, addState, addTransition, setAccepting,
      acceptStart, undo, startRun, refused]
    rfl

/-- A step that is not refused for being busy. -/
def Unhindered {α : Type} (step : Except WorkbenchError α) : Prop :=
  ∀ operation, step ≠ .error (.busy operation)

section Unhindered

variable {α β ε : Type}

theorem unhindered_ok (value : α) : Unhindered (.ok value) := by
  intro operation same
  cases same

theorem Unhindered.bind {step : Except WorkbenchError α} {next : α → Except WorkbenchError β}
    (first : Unhindered step) (others : ∀ value, Unhindered (next value)) :
    Unhindered (step >>= next) := by
  cases step with
  | ok value => exact others value
  | error error =>
    intro operation same
    obtain rfl := Except.error.inj same
    exact first operation rfl

theorem Unhindered.map {step : Except WorkbenchError α} (first : Unhindered step) (change : α → β) :
    Unhindered (step.map change) := by
  cases step with
  | ok value => exact unhindered_ok _
  | error error =>
    intro operation same
    obtain rfl := Except.error.inj same
    exact first operation rfl

/-- A refusal with a cause of another kind is not one for being busy. -/
theorem unhindered_mapError {step : Except ε α} {cause : ε → WorkbenchError}
    (other : ∀ error operation, cause error ≠ .busy operation) :
    Unhindered (step.mapError cause) := by
  cases step with
  | ok value => exact unhindered_ok _
  | error error =>
    intro operation same
    exact other error operation (Except.error.inj same)

end Unhindered

theorem unhindered_requireIdle (idle : bench.busy = false) (operation : Operation) :
    Unhindered (bench.requireIdle operation) := by
  rw [requireIdle_eq_ok_iff.mpr idle]
  exact unhindered_ok _

theorem unhindered_exportSpec (bench : Workbench) : Unhindered bench.exportSpec := by
  apply unhindered_mapError
  rintro error operation ⟨⟩

theorem unhindered_importSpec (idle : bench.busy = false) (text : Option String) :
    Unhindered (bench.importSpec text) := by
  apply (unhindered_requireIdle idle .importSpec).bind
  intro _
  apply Unhindered.bind
  · apply unhindered_mapError
    rintro error operation ⟨⟩
  · exact fun model => unhindered_ok _

theorem unhindered_setAccepting (idle : bench.busy = false) (id : StateId) (accepting : Bool) :
    Unhindered (bench.setAccepting id accepting) := by
  apply (unhindered_requireIdle idle .setAccepting).bind
  intro _
  apply Unhindered.bind
  · apply unhindered_mapError
    rintro error operation ⟨⟩
  · exact fun model => unhindered_ok _

/-- An idle workbench refuses no command for being busy. -/
theorem not_busy_of_perform (idle : bench.busy = false) (command : Command Failure)
    (operation : Operation) : (bench.perform command).1 ≠ .error (.busy operation) := by
  suffices Unhindered (bench.attempt command) by
    rw [perform]
    cases answered : bench.attempt command with
    | ok answer => simp
    | error error =>
      rw [answered] at this
      simpa using this operation
  cases command with
  | importSpec text => exact (unhindered_importSpec idle text).map _
  | loadDefault => exact (unhindered_importSpec idle _).map _
  | reset =>
    apply Unhindered.map
    exact (unhindered_requireIdle idle .reset).bind fun _ => unhindered_ok _
  | addState accepting =>
    apply Unhindered.map
    exact (unhindered_requireIdle idle .addState).bind fun _ => unhindered_ok _
  | addTransition source target symbol =>
    apply Unhindered.map
    apply (unhindered_requireIdle idle .addTransition).bind
    intro _
    apply Unhindered.bind
    · apply unhindered_mapError
      rintro error operation ⟨⟩
    · exact fun model => unhindered_ok _
  | setAccepting id accepting => exact (unhindered_setAccepting idle id accepting).map _
  | acceptStart => exact (unhindered_setAccepting idle _ true).map _
  | undo =>
    apply Unhindered.map
    apply (unhindered_requireIdle idle .undo).bind
    intro _
    cases bench.history <;> exact unhindered_ok _
  | startRun text =>
    apply Unhindered.map
    exact (unhindered_requireIdle idle .startRun).bind fun _ => unhindered_ok _
  | reimport =>
    apply Unhindered.bind (unhindered_exportSpec bench)
    exact fun text => (unhindered_importSpec idle _).map _
  | exportSpec => exact (unhindered_exportSpec bench).map _
  | check text => exact unhindered_ok _
  | onRun number command =>
    simp only [attempt]
    cases bench.onRun number command <;> exact unhindered_ok _

end Workbench

end Acceptor
