import Acceptor.CommandLine.Execution

/-!
# The command line program

Reads what a request needs, lets `Acceptor.CommandLine` decide what happens, and makes it happen.
-/

namespace Acceptor.CommandLine

/-- The lines shown for a command line that is refused or asks for help. -/
def usage : String :=
  "usage: acceptor [-h] [--log-level LEVEL] COMMAND ...\n" ++
  "  check SPEC INPUT...               check input strings\n" ++
  "  animate SPEC INPUT [--delay S]    print the frames of a check\n" ++
  "  dot SPEC                          print the graph in the DOT language\n" ++
  "  format SPEC                       print the specification in its standard form\n" ++
  "SPEC is a file, '-' for standard input or 'default' for the built-in example."

/-- The number by which the system reports a path that goes on behind a file. -/
def notFolderNumber : UInt32 := 20

/-- The number by which the system reports a path or a part of one that is too long. -/
def nameTooLongNumber : UInt32 := 36

/-- The number of a system error, which may be given with a minus sign. -/
def errorNumber (code : UInt32) : UInt32 :=
  if code ≤ 0 - code then code else 0 - code

/-- Reads a file of the folder the program runs in. -/
def readFile (name : String) : IO (Except FileError String) := do
  let path := normalPath name
  try
    return .ok (← IO.FS.readFile path)
  catch
    | .noFileOrDirectory .. => return .error ⟨path, .missing⟩
    | .invalidArgument _ code details =>
      if errorNumber code == nameTooLongNumber then return .error ⟨path, .nameTooLong⟩
      else throw (.invalidArgument path code details)
    | .inappropriateType _ code _ =>
      return .error ⟨path, if errorNumber code == notFolderNumber then .notFolder else .folder⟩
    | error => throw error

/-- Reads standard input up to its end. -/
def readInput : IO String := do
  let stream ← IO.getStdin
  let mut text := ""
  repeat
    let line ← stream.getLine
    if line.isEmpty then break
    text := text ++ line
  return text

/-- Reads the text of a specification. -/
def readSource (source : SpecSource) : IO (Except FileError String) := do
  match source with
  | .default => return .ok Spec.defaultText
  | .standardInput => return .ok (Text.unifyLineEnds (← readInput))
  | .file name => return (← readFile name).map Text.unifyLineEnds

/-- A delay in whole milliseconds, as far as a wait can be told to last. -/
def milliseconds : Delay → Nat
  | .seconds mantissa exponent =>
    let scale := exponent + 3
    if 10 < scale then UInt32.size - 1
    else if scale < 0 then mantissa.toNat / Nat.pow 10 scale.natAbs
    else mantissa.toNat * Nat.pow 10 scale.natAbs
  | .infinite _ | .undefined => UInt32.size - 1

/-- Prints one line, or waits. -/
def perform (output : Output) : IO Unit :=
  match output with
  | .line text => IO.println text
  | .wait delay =>
    if delay.isMeasurable then IO.sleep (min (milliseconds delay) (UInt32.size - 1)).toUInt32
    else throw (IO.userError "a wait is too long to be measured")

/-- Makes an ending happen, and returns the exit code. -/
def finish (ending : Ending) : IO UInt32 := do
  match ending with
  | .refused .help =>
    IO.println usage
    return 0
  | .refused .usage =>
    IO.eprintln usage
    return 2
  | .unknownLevel unknown =>
    IO.eprintln unknown.message
    return 1
  | .unfinished failure =>
    IO.eprintln failure.message
    return 1
  | .finished report =>
    report.outputs.forM perform
    IO.eprint report.standardError
    return report.exitCode.toUInt32

end Acceptor.CommandLine

/-- Runs the program. -/
def main (args : List String) : IO UInt32 := do
  match Acceptor.CommandLine.requestOf args with
  | .error ending => Acceptor.CommandLine.finish ending
  | .ok request =>
    let text ← Acceptor.CommandLine.readSource request.spec
    Acceptor.CommandLine.finish (Acceptor.CommandLine.conclude request text)
