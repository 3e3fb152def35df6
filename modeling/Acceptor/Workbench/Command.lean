import Acceptor.Workbench.Basic

/-!
# Commands to a workbench

Everything that can be asked of a workbench, as data. `Workbench.perform` answers one command and
`Workbench.performAll` a sequence of them; a refused command leaves the workbench as it is.
-/

namespace Acceptor

/-- What can be asked of a workbench. -/
inductive Command (Failure : Type) where
  | importSpec (text : Option String)
  | loadDefault
  | reimport
  | exportSpec
  | reset
  | addState (accepting : Bool)
  | addTransition (source target : StateId) (symbol : Symbol)
  | setAccepting (id : StateId) (accepting : Bool)
  | acceptStart
  | undo
  | check (text : Option String)
  | startRun (text : Option String)
  | onRun (number : Nat) (command : RunCommand Failure)

/-- What a workbench answers. `absent` answers a command to a run that was never started. -/
inductive Reply (Failure : Type) where
  | done
  | absent
  | model (model : Automaton)
  | id (id : StateId)
  | flag (value : Bool)
  | text (text : String)
  | verdict (verdict : Verdict)
  | started (run : Playback)
  | ran (reply : RunReply Failure)

namespace Workbench

variable {Failure : Type}

/-- The answer to a command and the workbench after it, or the refusal. -/
def attempt (bench : Workbench) : Command Failure →
    Except WorkbenchError (Reply Failure × Workbench)
  | .importSpec text => (bench.importSpec text).map fun (model, after) => (.model model, after)
  | .loadDefault => bench.loadDefault.map fun (model, after) => (.model model, after)
  | .reimport => do
    let text ← bench.exportSpec
    (bench.importSpec (some text)).map fun (model, after) => (.model model, after)
  | .exportSpec => bench.exportSpec.map fun text => (.text text, bench)
  | .reset => bench.reset.map fun (model, after) => (.model model, after)
  | .addState accepting => (bench.addState accepting).map fun (id, after) => (.id id, after)
  | .addTransition source target symbol =>
    (bench.addTransition source target symbol).map fun after => (.done, after)
  | .setAccepting id accepting =>
    (bench.setAccepting id accepting).map fun after => (.done, after)
  | .acceptStart => bench.acceptStart.map fun after => (.done, after)
  | .undo => bench.undo.map fun (undone, after) => (.flag undone, after)
  | .check text => .ok (.verdict (bench.check text), bench)
  | .startRun text => (bench.startRun text).map fun (run, after) => (.started run, after)
  | .onRun number command =>
    match bench.onRun number command with
    | some (reply, after) => .ok (.ran reply, after)
    | none => .ok (.absent, bench)

/-- The answer to a command, be it a refusal, and the workbench after it. -/
def perform (bench : Workbench) (command : Command Failure) :
    Except WorkbenchError (Reply Failure) × Workbench :=
  match bench.attempt command with
  | .ok (reply, after) => (.ok reply, after)
  | .error error => (.error error, bench)

/-- The workbench after a sequence of commands. -/
def performAll (bench : Workbench) (commands : List (Command Failure)) : Workbench :=
  commands.foldl (fun current command => (current.perform command).2) bench

end Workbench

end Acceptor
