import Acceptor.Diagram.Drawing
import Acceptor.Page.Session

/-!
# Checking on the page

What the button for a check does: symbols outside the alphabet are reported and leave everything as
it was; otherwise the verdict on the input is remembered, either at once or after the frames of a
run have been shown.
-/

namespace Acceptor.Page

/-- What a check leaves on the page: the session after it, the drawing, what stands before the
results, and why the workbench refused to start a run, if it did. -/
structure Finding where
  session : Session
  drawing : String
  notes : List Element
  refusal : Option WorkbenchError
  deriving DecidableEq, Repr

namespace Session

/-- The symbols of the input that are not in the alphabet, sorted and each once. -/
def unknownSymbols (session : Session) : List Symbol :=
  let outside := (inputSymbols session.inputString).filter fun symbol =>
    !session.bench.model.alphabet.contains symbol
  (distinct outside).mergeSort

/-- The drawing of the automaton without marks. -/
def plainDrawing (session : Session) : String :=
  session.bench.model.projection.toDot Dot.quote Marking.none

/-- A message about a refusal. -/
def refusalNote (error : WorkbenchError) : Element :=
  .say .error ("**Error:** " ++ error.message)

/-- The session with a verdict on its input. -/
def remember (session : Session) (verdict : Option Verdict) : Session :=
  { session with lastVerdict := verdict, lastInput := session.inputString }

/-- The receiver that shows frames. -/
def showFrames (_ : Frame) : Reaction Empty := Reaction.takes

/-- What the last frame of a run leaves on the page. -/
def lastPicture (session : Session) (run : Playback) (frames : List Frame) :
    String × List Element :=
  match frames.getLast? with
  | none => (session.plainDrawing, [])
  | some frame =>
    (run.picture.toDot Dot.quote frame.marking,
      [.say .caption ("Animating... Step " ++ toString frame.consumed ++ "/" ++
        toString run.symbols.length)])

/-- A check that shows its frames. -/
def checkAnimated (session : Session) : Finding :=
  match session.bench.startRun (some session.inputString) with
  | .error error => ⟨session, session.plainDrawing, [refusalNote error], some error⟩
  | .ok (run, bench) =>
    let driven := run.drive showFrames Delay.zero
    let freed := bench.noteRun session.bench.runs.length run driven.run
    let (drawing, notes) := session.lastPicture run driven.frames
    ⟨{ session with bench := freed }.remember driven.run.verdict, drawing, notes, none⟩

/-- A check of the input. -/
def checkInput (session : Session) : Finding :=
  let unknown := session.unknownSymbols
  if !unknown.isEmpty then
    ⟨session, session.plainDrawing,
      [.say .error ("Symbols " ++ ", ".intercalate unknown ++ " are not part of the alphabet.")],
      none⟩
  else if session.animate then session.checkAnimated
  else
    ⟨session.remember (some (session.bench.check (some session.inputString))),
      session.plainDrawing, [], none⟩

/-- What the check button and the one that clears the results do, given whether they answer. -/
def finding (session : Session) (clears checks : Bool) : Finding :=
  let cleared := if clears then { session with lastVerdict := none } else session
  if checks then cleared.checkInput else ⟨cleared, cleared.plainDrawing, [], none⟩

/-- The results of the last check. -/
def results (session : Session) : Except AutomatonError (List Element) :=
  match session.lastVerdict with
  | none => .ok [.say .info "Build or load an automaton, then click 'Check string'."]
  | some verdict => do
    let model := session.bench.model
    let sequence := "**Result:** Sequence '" ++ session.lastInput ++ "' is "
    let outcome ←
      if verdict.accepted then pure [Element.say .success (sequence ++ "**Accepted**.")]
      else do
        let description ← verdict.describe model
        pure [Element.say .error (sequence ++ "**Rejected**."), Element.say .caption description]
    let trace ←
      if verdict.steps.isEmpty then pure []
      else do
        pure [Element.say .markdown "##### Execution Trace", Element.table (← verdict.trace model)]
    let label ← model.label verdict.state
    return outcome ++ trace ++
      [.say .markdown ("**End:** Finished in state **`" ++ label ++ "`**.")]

end Session

end Acceptor.Page
