import Acceptor.CommandLine.Arguments
import Acceptor.CommandLine.Folder
import Acceptor.CommandLine.Level
import Acceptor.Diagram.Drawing
import Acceptor.Text.LineEnds
import Acceptor.Workbench.Basic

/-!
# Running a command line

What a command line prints and how it exits, as a function of its arguments, of standard input and
of the folder it runs in. Inputs are checked on a workbench that holds the specified automaton. The
exit code is 0 if all went well and every input was accepted, 2 if one was not, and 1 after an
error. Lines that are logged are left out.
-/

namespace Acceptor.CommandLine

/-- One thing that happens on standard output: a line is printed, or time passes. -/
inductive Output where
  | line (text : String)
  | wait (delay : Delay)
  deriving DecidableEq, Repr

/-- What a command leaves behind: its exit code, its output and what it complains about. -/
structure Report where
  exitCode : Nat
  outputs : List Output
  complaint : Option String
  deriving DecidableEq, Repr

/-- The text on standard output. -/
def Report.standardOutput (report : Report) : String :=
  String.join (report.outputs.map fun
    | .line text => text ++ "\n"
    | .wait _ => "")

/-- The text on standard error, without the lines that are logged. -/
def Report.standardError (report : Report) : String :=
  match report.complaint with
  | none => ""
  | some complaint => "Error: " ++ complaint ++ "\n"

/-- Some wait in the output is longer than a clock can measure. -/
def Report.waitsTooLong (report : Report) : Bool :=
  report.outputs.any fun
    | .line _ => false
    | .wait delay => !delay.isMeasurable

/-- Why a command fails. -/
inductive Failure where
  | file (error : FileError)
  | workbench (error : WorkbenchError)
  | absentDelay
  deriving DecidableEq, Repr

/-- The wording of a failure. -/
def Failure.message : Failure → String
  | .file error => error.message
  | .workbench error => error.message
  | .absentDelay => "no delay to wait for between frames"

/-- Failures that a command reports. -/
def Failure.isReported : Failure → Bool
  | .file error => error.fault.isReported
  | .workbench error => error.isReported
  | .absentDelay => false

/-- How a command line ends. A failure that no command reports ends it unfinished. -/
inductive Ending where
  | refused (refusal : Refusal)
  | unknownLevel (unknown : UnknownLevel)
  | unfinished (failure : Failure)
  | finished (report : Report)
  deriving DecidableEq, Repr

/-- The ending of a command that fails. -/
def Failure.ending (failure : Failure) : Ending :=
  if failure.isReported then .finished ⟨1, [], some failure.message⟩ else .unfinished failure

/-- What a command line runs in: standard input and a folder. -/
structure Surroundings where
  input : String
  folder : Folder
  deriving DecidableEq, Repr

/-- The text of a specification. -/
def Surroundings.read (surroundings : Surroundings) : SpecSource → Except FileError String
  | .default => .ok Spec.defaultText
  | .standardInput => .ok (Text.unifyLineEnds surroundings.input)
  | .file name => (surroundings.folder.read name).map Text.unifyLineEnds

/-- The exit code for a verdict. -/
def exitCodeFor (accepted : Bool) : Nat :=
  if accepted then 0 else 2

/-- How an input is shown beside its verdict. -/
def shownInput (input : String) : String :=
  if input.isEmpty then "<empty>" else input

/-- The line for one checked input, and whether it is accepted. -/
def checkLine (bench : Workbench) (input : String) : Except AutomatonError (String × Bool) := do
  let verdict := bench.check (some input)
  if verdict.accepted then
    let label ← bench.model.label verdict.state
    return (shownInput input ++ ": Accepted (final state " ++ label ++ ")", true)
  else
    let description ← verdict.describe bench.model
    return (shownInput input ++ ": Rejected - " ++ description, false)

/-- Checks inputs one after the other. -/
def reportCheck (bench : Workbench) (inputs : List String) : Except AutomatonError Report := do
  let lines ← inputs.mapM (checkLine bench)
  return ⟨exitCodeFor (lines.all (·.2)), lines.map (.line ·.1), none⟩

/-- The name of a kind of frame. -/
def frameKindName : FrameKind → String
  | .start => "start"
  | .edge => "edge"
  | .state => "state"
  | .accepted => "accepted"
  | .rejected => "rejected"

/-- The line for a frame. -/
def frameLine (model : Automaton) (frame : Frame) : Except AutomatonError String := do
  let label ← model.label frame.state
  let lead := "[" ++ toString frame.sequence ++ "] " ++ frameKindName frame.kind ++ ": " ++ label
  return match frame.kind, frame.symbol with
    | .edge, some symbol => lead ++ " --" ++ symbol ++ "-->"
    | .start, some symbol | .state, some symbol => lead ++ " (after " ++ symbol ++ ")"
    | _, _ => lead

/-- What one event of a driven run puts on standard output. -/
def eventOutput (model : Automaton) : DriveEvent → Except AutomatonError Output
  | .wait delay => .ok (.wait delay)
  | .frame frame => (frameLine model frame).map .line

/-- A receiver that only takes frames. -/
def plainReceiver (_ : Frame) : Reaction Empty := Reaction.takes

/-- Shows the run on an input frame by frame. -/
def reportAnimate (bench : Workbench) (input : String) (delay : Delay) :
    Except WorkbenchError Report := do
  let (run, _) ← bench.startRun (some input)
  let driven := run.drive plainReceiver delay
  let shown ← (driven.events.mapM (eventOutput bench.model)).mapError .automaton
  match driven.result with
  | .error impossible => nomatch impossible
  | .ok none => return ⟨1, shown, none⟩
  | .ok (some verdict) =>
    let description ← (verdict.describe bench.model).mapError .automaton
    return ⟨exitCodeFor verdict.accepted, shown ++ [.line description], none⟩

/-- Carries out a request on a workbench that holds its automaton. Every run has at least two
frames, so an absent delay is always missed. -/
def carryOut (bench : Workbench) : Request → Except Failure Report
  | .check _ inputs => (reportCheck bench inputs).mapError (.workbench ∘ .automaton)
  | .animate _ input (some delay) => (reportAnimate bench input delay).mapError .workbench
  | .animate _ _ none => .error .absentDelay
  | .dot _ => .ok ⟨0, [.line (bench.model.projection.toDot Dot.quote Marking.none)], none⟩
  | .format _ =>
    (bench.exportSpec.map fun text => ⟨0, [.line text], none⟩).mapError .workbench

/-- Carries out a request on the text of its specification, which may be unreadable. -/
def execute (request : Request) (text : Except FileError String) : Except Failure Report := do
  let text ← text.mapError .file
  let start ← (Workbench.create none none).mapError .workbench
  let (_, bench) ← (start.importSpec (some text)).mapError .workbench
  carryOut bench request

/-- The request of a command line. The log level is checked as well; nothing depends on it but the
lines that are logged, which are left out. -/
def requestOf (args : List String) : Except Ending Request := do
  let arguments ← (readArguments args).mapError .refused
  let _ ← (levelOf arguments.level).mapError .unknownLevel
  return arguments.request

/-- How a request ends, given the text of its specification. -/
def conclude (request : Request) (text : Except FileError String) : Ending :=
  match execute request text with
  | .error failure => failure.ending
  | .ok report => .finished report

/-- Runs a command line. -/
def run (surroundings : Surroundings) (args : List String) : Ending :=
  match requestOf args with
  | .error ending => ending
  | .ok request => conclude request (surroundings.read request.spec)

end Acceptor.CommandLine
