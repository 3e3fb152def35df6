import Acceptor.Automaton.Build
import Acceptor.Run.Command
import Acceptor.Run.Input
import Acceptor.Spec.Default
import Acceptor.Spec.Reading
import Acceptor.Spec.Writing

/-!
# The workbench

The automaton being worked on, with the earlier ones that can be gone back to and the shown runs
that were started on it. While a run is on its way the workbench is busy: the automaton stays as it
is and no other run starts. A change to an automaton that is the same up to the order of its
transitions is no change, and leaves no trace in the history.
-/

namespace Acceptor

/-- What a busy workbench refuses to do. -/
inductive Operation where
  | importSpec
  | reset
  | addState
  | addTransition
  | setAccepting
  | undo
  | startRun
  deriving DecidableEq, Repr

/-- An operation in the words of its refusal. -/
def Operation.phrase : Operation → String
  | .importSpec => "import a specification"
  | .reset => "reset the automaton"
  | .addState => "add a state"
  | .addTransition => "add a transition"
  | .setAccepting => "change accepting states"
  | .undo => "undo"
  | .startRun => "start another string check"

/-- Why the workbench refuses something. -/
inductive WorkbenchError where
  | negativeLimit
  | limitOutOfRange
  | busy (operation : Operation)
  | spec (error : Spec.SpecError)
  | automaton (error : AutomatonError)
  deriving DecidableEq, Repr

/-- The wording of a refusal. -/
def WorkbenchError.message : WorkbenchError → String
  | .negativeLimit => "maxlen must be non-negative"
  | .limitOutOfRange => "limit out of range"
  | .busy operation =>
    "Cannot " ++ operation.phrase ++ " while a string check animation is running."
  | .spec error => error.message
  | .automaton error => error.message

/-- Refusals that a front end reports to its user. The others mean that an automaton was handed in
that cannot be, and are not meant to be handled. -/
def WorkbenchError.isReported : WorkbenchError → Bool
  | .busy _ => true
  | .spec (.reading _) => true
  | .spec (.automaton error) | .automaton error =>
    match error with
    | .unknownState _ | .conflict .. => true
    | .noStates | .repeatedIds | .repeatedLabels | .literal _ => false
  | .negativeLimit | .limitOutOfRange => false

/-- The automaton being worked on, the earlier ones with the most recent first and at most `limit`
of them, all runs in the order of their start, and the number of the run that is on its way. -/
structure Workbench where
  model : Automaton
  history : List Automaton
  limit : Nat
  runs : List Playback
  active : Option Nat
  deriving DecidableEq, Repr

namespace Workbench

/-- How many earlier automata are kept where nothing else is asked for. -/
def standardLimit : Nat := 100

/-- A limit can be given as an integer of 64 bits. -/
def limitInRange (limit : Int) : Bool :=
  -9223372036854775808 ≤ limit && limit < 9223372036854775808

/-- The number of automata to keep: an absent or zero limit stands for the standard one. -/
def limitOf (limit : Option Int) : Except WorkbenchError Nat :=
  match limit with
  | none => .ok standardLimit
  | some limit =>
    if !limitInRange limit then .error .limitOutOfRange
    else if limit < 0 then .error .negativeLimit
    else if limit = 0 then .ok standardLimit
    else .ok limit.toNat

/-- A workbench with an automaton on it, the empty one if none is given. -/
def create (model : Option Automaton) (limit : Option Int) : Except WorkbenchError Workbench :=
  (limitOf limit).map fun limit => ⟨model.getD Automaton.empty, [], limit, [], none⟩

/-- There is something to go back to. -/
def canUndo (bench : Workbench) : Bool :=
  !bench.history.isEmpty

/-- A run is on its way. -/
def busy (bench : Workbench) : Bool :=
  bench.active.isSome

/-- Refuses an operation while a run is on its way. -/
def requireIdle (bench : Workbench) (operation : Operation) : Except WorkbenchError Unit :=
  if bench.busy then .error (.busy operation) else .ok ()

/-- Puts an automaton on the workbench and the one it replaces into the history. -/
def commit (bench : Workbench) (model : Automaton) : Workbench :=
  if model.Same bench.model then bench
  else { bench with model, history := (bench.model :: bench.history).take bench.limit }

/-- Reads a specification and puts its automaton on the workbench. The automaton is returned as
read, also where an equal one stays on the workbench. -/
def importSpec (bench : Workbench) (text : Option String) :
    Except WorkbenchError (Automaton × Workbench) := do
  bench.requireIdle .importSpec
  let model ← (Spec.parseInput text).mapError .spec
  return (model, bench.commit model)

/-- Reads the default specification. -/
def loadDefault (bench : Workbench) : Except WorkbenchError (Automaton × Workbench) :=
  bench.importSpec (some Spec.defaultText)

/-- The specification of the automaton on the workbench. -/
def exportSpec (bench : Workbench) : Except WorkbenchError String :=
  (Spec.write bench.model).mapError .automaton

/-- Puts the empty automaton on the workbench. -/
def reset (bench : Workbench) : Except WorkbenchError (Automaton × Workbench) := do
  bench.requireIdle .reset
  return (Automaton.empty, bench.commit Automaton.empty)

/-- Adds a state and returns its identifier. -/
def addState (bench : Workbench) (accepting : Bool) :
    Except WorkbenchError (StateId × Workbench) := do
  bench.requireIdle .addState
  let (model, id) := bench.model.addState accepting
  return (id, bench.commit model)

/-- Adds a transition. -/
def addTransition (bench : Workbench) (source target : StateId) (symbol : Symbol) :
    Except WorkbenchError Workbench := do
  bench.requireIdle .addTransition
  return bench.commit (← (bench.model.addTransition source target symbol).mapError .automaton)

/-- Sets whether a state accepts. -/
def setAccepting (bench : Workbench) (id : StateId) (accepting : Bool) :
    Except WorkbenchError Workbench := do
  bench.requireIdle .setAccepting
  return bench.commit (← (bench.model.setAccepting id accepting).mapError .automaton)

/-- Makes the initial state accept. -/
def acceptStart (bench : Workbench) : Except WorkbenchError Workbench :=
  bench.setAccepting bench.model.initial true

/-- Goes back to the most recent earlier automaton, if there is one, and says whether there was. -/
def undo (bench : Workbench) : Except WorkbenchError (Bool × Workbench) := do
  bench.requireIdle .undo
  match bench.history with
  | [] => return (false, bench)
  | model :: earlier => return (true, { bench with model, history := earlier })

/-- The verdict on an input. -/
def check (bench : Workbench) (text : Option String) : Verdict :=
  bench.model.check Automaton.emptyInputAccepted (inputSymbols? text)

/-- Starts a shown run on an input. The run is returned as well. -/
def startRun (bench : Workbench) (text : Option String) :
    Except WorkbenchError (Playback × Workbench) := do
  bench.requireIdle .startRun
  let run := Playback.start bench.model (inputSymbols? text) Automaton.emptyInputAccepted
  return (run, { bench with runs := bench.runs ++ [run], active := some bench.runs.length })

/-- Takes note of how a run has gone on. A run that has given notice of its end since then frees
the workbench if it was the one on its way. -/
def noteRun (bench : Workbench) (number : Nat) (before after : Playback) : Workbench :=
  let ended := before.notices.length < after.notices.length
  { bench with
    runs := bench.runs.set number after
    active := if ended && bench.active == some number then none else bench.active }

/-- Passes a command to one of the runs that were started. -/
def onRun {Failure : Type} (bench : Workbench) (number : Nat) (command : RunCommand Failure) :
    Option (RunReply Failure × Workbench) :=
  (bench.runs[number]?).map fun run =>
    let (reply, after) := run.perform command
    (reply, bench.noteRun number run after)

end Workbench

end Acceptor
