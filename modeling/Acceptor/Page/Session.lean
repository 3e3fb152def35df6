import Acceptor.Page.Element
import Acceptor.Page.Toolkit
import Acceptor.Workbench.Basic

/-!
# Sessions of the page

What one user's page remembers between two visits: the workbench, the values of the controls, the
last verdict with its input, and which controls were shown disabled. A button that changes the
workbench forgets the last verdict if it succeeds; if it is refused, nothing but a message is left
of it, or a failure of the page if the refusal is none that is reported.
-/

namespace Acceptor.Page

/-- What is remembered between two visits. `held` is the number of a run that another visitor of the
same workbench keeps on its way. -/
structure Session where
  bench : Workbench
  specText : String
  lastVerdict : Option Verdict
  lastInput : String
  firstNode : StateId
  secondNode : StateId
  symbol : Option Symbol
  inputString : String
  animate : Bool
  disabled : List Control
  held : Option Nat
  deriving DecidableEq, Repr

/-- Values put into controls before a visit, and the button pressed for it. -/
structure Entry where
  specText : Option String
  inputString : Option String
  animate : Option Bool
  firstNode : Option StateId
  secondNode : Option StateId
  symbol : Option Symbol
  pressed : Option Control
  deriving DecidableEq, Repr

/-- A visit without any input. -/
def Entry.none : Entry :=
  ⟨.none, .none, .none, .none, .none, .none, .none⟩

/-- The controls that an entry touches, its button last. -/
def Entry.controls (entry : Entry) : List Control :=
  [entry.specText.map fun _ => Control.specText,
    entry.inputString.map fun _ => Control.inputString,
    entry.animate.map fun _ => Control.animate,
    entry.firstNode.map fun _ => Control.firstNode,
    entry.secondNode.map fun _ => Control.secondNode,
    entry.symbol.map fun _ => Control.symbol,
    entry.pressed].filterMap id

/-- An entry presses a button. -/
def Entry.presses (entry : Entry) (control : Control) : Bool :=
  entry.pressed == some control

namespace Session

/-- The session of a page that has not been visited, with the empty automaton on its workbench. -/
def start : Session where
  bench := ⟨Automaton.empty, [], Workbench.standardLimit, [], none⟩
  specText := ""
  lastVerdict := none
  lastInput := ""
  firstNode := Automaton.empty.initial
  secondNode := Automaton.empty.initial
  symbol := Automaton.defaultAlphabet.head?
  inputString := ""
  animate := false
  disabled := []
  held := none

/-- Takes over the values of an entry. The check box for animation is disabled while a run is on its
way. -/
def enter (session : Session) (toolkit : Toolkit) (entry : Entry) : Session :=
  { session with
    specText := entry.specText.getD session.specText
    inputString := entry.inputString.getD session.inputString
    animate := toolkit.ticks session.bench.busy session.animate entry.animate
    firstNode := entry.firstNode.getD session.firstNode
    secondNode := entry.secondNode.getD session.secondNode
    symbol := entry.symbol.or session.symbol }

/-- The session after something was asked of its workbench, and the refusal if there was one. -/
def report (session : Session) (result : Except WorkbenchError Workbench) :
    Session × Option WorkbenchError :=
  match result with
  | .ok bench => ({ session with bench, lastVerdict := none }, none)
  | .error error => (session, some error)

/-- The session with the specification of its automaton in the text area. -/
def syncSpec (session : Session) : Session :=
  match session.bench.exportSpec with
  | .ok text => { session with specText := text }
  | .error _ => session

/-- The session after an edit, which is followed by the text area if it succeeds. -/
def edit (session : Session) (result : Except WorkbenchError Workbench) :
    Session × Option WorkbenchError :=
  match session.report result with
  | (edited, none) => (edited.syncSpec, none)
  | (same, some error) => (same, some error)

/-- Reads the specification in the text area. -/
def buildFromSpec (session : Session) : Session × Option WorkbenchError :=
  session.report ((session.bench.importSpec (some session.specText)).map (·.2))

/-- Puts the default specification into the text area and reads it. -/
def loadDefault (session : Session) : Session × Option WorkbenchError :=
  let filled := { session with specText := Spec.defaultText }
  filled.report (filled.bench.loadDefault.map (·.2))

/-- The session with its selections brought to the states and symbols that exist. -/
def select (session : Session) (toolkit : Toolkit) : Session :=
  let model := session.bench.model
  { session with
    firstNode := toolkit.selects model.ids session.firstNode
    secondNode := toolkit.selects model.ids session.secondNode
    symbol := toolkit.chooses model.alphabet session.symbol }

/-- The first selected state accepts. -/
def firstAccepts (session : Session) : Bool :=
  session.bench.model.isAccepting session.firstNode

/-- Keeps a run on its way, as another visitor would. -/
def hold (session : Session) (text : Option String) : Except WorkbenchError Session := do
  let (_, bench) ← session.bench.startRun text
  return { session with bench, held := some session.bench.runs.length }

/-- The command that closes a run. -/
def closing : RunCommand Empty := .close

/-- Closes the run that was kept on its way. -/
def release (session : Session) : Session :=
  match session.held.bind fun number => session.bench.onRun number closing with
  | none => session
  | some (_, bench) => { session with bench, held := none }

end Session

end Acceptor.Page
