import Acceptor.CommandLine.Level
import Acceptor.CommandLine.Number
import Acceptor.CommandLine.Word

/-!
# Arguments

From the arguments of a command line to what is asked for: a log level, which may come first, and
one of four commands with its values. Arguments that do not fit are refused, and a request for help
is told apart from them: whichever is met first decides. Unknown options and superfluous values are
kept back, and refuse the arguments only after all others have been looked at.
-/

namespace Acceptor.CommandLine

/-- Where a specification comes from. -/
inductive SpecSource where
  | default
  | standardInput
  | file (name : String)
  deriving DecidableEq, Repr

/-- The source that an argument names. -/
def SpecSource.ofArgument (arg : String) : SpecSource :=
  if arg = "default" then .default
  else if arg = "-" then .standardInput
  else .file arg

/-- What is asked for. A delay is absent where an option for it was given without a value. -/
inductive Request where
  | check (spec : SpecSource) (inputs : List String)
  | animate (spec : SpecSource) (input : String) (delay : Option Delay)
  | dot (spec : SpecSource)
  | format (spec : SpecSource)
  deriving DecidableEq, Repr

/-- The source of the specification that a request is about. -/
def Request.spec : Request → SpecSource
  | .check spec _ | .animate spec _ _ | .dot spec | .format spec => spec

/-- A whole command line. -/
structure Arguments where
  level : String
  request : Request
  deriving DecidableEq, Repr

/-- Why no command is run. -/
inductive Refusal where
  | usage
  | help
  deriving DecidableEq, Repr

/-- The options of every command. -/
def commonOptions : List String := ["-h", "--help"]

/-- The options before the command. -/
def mainOptions : List String := commonOptions ++ ["--log-level"]

/-- The options of the command that shows frames. -/
def animateOptions : List String := commonOptions ++ ["--delay"]

/-- What an option for help leads to. It takes no value, but one hyphen may lead several short
options, each of which asks for help. -/
def helpRefusal (name : String) (given : Option String) : Refusal :=
  match given with
  | none => .help
  | some more =>
    if name = "-h" && !more.isEmpty && more.toList.all (· == 'h') then .help else .usage

/-- Looks for the first word that refuses the arguments of a command without options of its own.
The flag says whether an unknown option has been kept back. -/
def requirePlain (keptBack : Bool) : List Word → Except Refusal Unit
  | [] => if keptBack then .error .usage else .ok ()
  | .option name given :: _ => .error (helpRefusal name given)
  | .ambiguous :: _ => .error .usage
  | .unknown :: rest => requirePlain true rest
  | .value _ :: rest | .separator :: rest => requirePlain keptBack rest

/-- The value that is given with an option. The separator text in its place is no value. -/
def givenValue? (text : String) : Option String :=
  if text = separatorText then none else some text

/-- The texts that one value takes up: the value and the separators next to it. The rest of the
words comes with them. -/
def takeValue : List Word → Option (List String × List Word)
  | .separator :: rest => (takeValue rest).map fun (texts, after) => (separatorText :: texts, after)
  | .value text :: rest =>
    let separators := rest.takeWhile (· = .separator)
    some (text :: separators.map fun _ => separatorText, rest.dropWhile (· = .separator))
  | _ => none

/-- What follows a value is shorter. -/
theorem length_lt_of_takeValue {words rest : List Word} {texts : List String}
    (taken : takeValue words = some (texts, rest)) : rest.length < words.length := by
  fun_induction takeValue words generalizing texts rest with
  | case1 words inductionHypothesis =>
    obtain ⟨⟨inner, after⟩, found, same⟩ := Option.map_eq_some_iff.mp taken
    obtain ⟨rfl, rfl⟩ := Prod.mk.inj same
    have shorter := inductionHypothesis found
    simp only [List.length_cons]
    omega
  | case2 text words =>
    obtain ⟨rfl, rfl⟩ := Prod.mk.inj (Option.some.inj taken)
    have shorter := (List.dropWhile_sublist (l := words) (· = Word.separator)).length_le
    simp only [List.length_cons]
    omega
  | case3 => simp at taken

/-- The texts of a value without the first separator text among them; a value that was nothing else
is empty. -/
def valueOf (texts : List String) : String :=
  ((texts.erase separatorText).head?).getD ""

/-- The text of a value or a separator. -/
def textOf? : Word → Option String
  | .value text => some text
  | .separator => some separatorText
  | _ => none

/-- A command with a specification and at least one more value. -/
def readCheck (words : List Word) : Except Refusal Request := do
  requirePlain false words
  let texts := words.filterMap textOf?
  let some (spec, rest) := takeValue words | throw .usage
  if (takeValue rest).isNone then throw .usage
  let inputs := (texts.drop spec.length).erase separatorText
  return .check (SpecSource.ofArgument (valueOf spec)) inputs

/-- A command with a specification alone. -/
def readSpecOnly (make : SpecSource → Request) (words : List Word) : Except Refusal Request := do
  requirePlain false words
  match takeValue words with
  | some (spec, []) => return make (SpecSource.ofArgument (valueOf spec))
  | _ => throw .usage

/-- The delay that is given with an option, absent if no value is; what is no number is refused. -/
def readDelay (text : String) : Except Refusal (Option Delay) :=
  match givenValue? text with
  | none => .ok none
  | some written =>
    match readDelay? written with
    | some delay => .ok (some delay)
    | none => .error .usage

/-- What has been read of a command that takes a specification, an input and delays: the values in
order, the last delay, and whether anything has been kept back. -/
structure AnimateArguments where
  values : List String
  delay : Option Delay
  keptBack : Bool
  deriving DecidableEq, Repr

/-- The request that the arguments of the command amount to. -/
def AnimateArguments.request (read : AnimateArguments) : Except Refusal Request :=
  match read.values, read.keptBack with
  | [spec, input], false => .ok (.animate (SpecSource.ofArgument spec) input read.delay)
  | _, _ => .error .usage

/-- One more value, or one kept back if there are two already. -/
def AnimateArguments.addValue (read : AnimateArguments) (value : String) : AnimateArguments :=
  if read.values.length < 2 then { read with values := read.values ++ [value] }
  else { read with keptBack := true }

/-- A command with a specification and an input, among which delays may stand. -/
def readAnimate (read : AnimateArguments) (words : List Word) : Except Refusal Request :=
  match words with
  | [] => read.request
  | .option "--delay" (some text) :: rest =>
    match readDelay text with
    | .ok delay => readAnimate { read with delay } rest
    | .error refusal => .error refusal
  | .option "--delay" none :: .value text :: rest =>
    match readDelay text with
    | .ok delay => readAnimate { read with delay } rest
    | .error refusal => .error refusal
  | .option "--delay" none :: _ => .error .usage
  | .option name given :: _ => .error (helpRefusal name given)
  | .ambiguous :: _ => .error .usage
  | .unknown :: rest => readAnimate { read with keptBack := true } rest
  | first :: rest =>
    match _ : takeValue (first :: rest) with
    | some (texts, after) => readAnimate (read.addValue (valueOf texts)) after
    | none => readAnimate { read with keptBack := true } rest
termination_by words.length
decreasing_by
  · exact Nat.lt_succ_self _
  · exact Nat.lt_succ_of_lt (Nat.lt_succ_self _)
  · exact Nat.lt_succ_self _
  · exact length_lt_of_takeValue (by assumption)
  · exact Nat.lt_succ_self _

/-- The request of a command by its name and the arguments behind it. -/
def readCommand (name : String) (args : List String) : Except Refusal Request :=
  let words := Word.ofArguments commonOptions args
  match name with
  | "check" => readCheck words
  | "animate" =>
    readAnimate ⟨[], some Delay.zero, false⟩ (Word.ofArguments animateOptions args)
  | "dot" => readSpecOnly .dot words
  | "format" => readSpecOnly .format words
  | _ => .error .usage

/-- The options before a command, given the log level so far and whether anything has been kept
back, and then the command. -/
def readOptions (level : String) (keptBack : Bool) : List String → Except Refusal Arguments
  | [] => .error .usage
  | arg :: rest =>
    match Word.ofArgument mainOptions arg with
    | .value name => do
      let request ← readCommand name rest
      if keptBack then throw .usage
      return ⟨level, request⟩
    | .option "--log-level" (some given) =>
      readOptions ((givenValue? given).getD standardLevel) keptBack rest
    | .option "--log-level" none =>
      match rest with
      | [] => .error .usage
      | next :: others =>
        match Word.ofArgument mainOptions next with
        | .value given => readOptions given keptBack others
        | _ => .error .usage
    | .option name given => .error (helpRefusal name given)
    | .unknown => readOptions level true rest
    | .separator | .ambiguous => .error .usage

/-- A whole command line. An ambiguous option anywhere in it is refused before anything else. -/
def readArguments (args : List String) : Except Refusal Arguments :=
  if (Word.ofArguments mainOptions args).contains .ambiguous then .error .usage
  else readOptions standardLevel false args

end Acceptor.CommandLine
