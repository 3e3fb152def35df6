import Acceptor.Page.Finding

/-!
# A visit of the page

One run of the page from top to bottom. The buttons act where they are built, so every element
shows the session as it is at that point: `Stages` holds these points in order. The page is then
read off the stages.

A refusal that is not reported ends the visit where it occurs: what has been built until then is
shown, and nothing more is done. Only the button for transitions can be refused like this, if the
toolkit lets it act without a symbol or with one that cannot stand in a literal.
-/

namespace Acceptor

/-- The page: its main part and its sidebar, and the failure that cut it short. -/
structure Page where
  main : List Page.Element
  sidebar : List Page.Element
  failure : Option WorkbenchError
  deriving DecidableEq, Repr

namespace Page

/-- The controls that the page shows as disabled. -/
def disabledControls (page : Page) : List Control :=
  (page.sidebar ++ page.main).filterMap Element.disabledControl?

/-- A session at one point of a visit, whether the button there acted, and the refusal if it acted
in vain. -/
structure Stage where
  session : Session
  acted : Bool
  refusal : Option WorkbenchError
  deriving DecidableEq, Repr

/-- The refusal of a stage if it is none that is reported. -/
def Stage.failure? (stage : Stage) : Option WorkbenchError :=
  stage.refusal.filter fun error => !error.isReported

/-- The points of a visit: after a callback that comes first, after each of the edit buttons above
the selections, after the selections, after the two edit buttons below, after the check, and after a
callback that is made where its button is. Of the two buttons for checks it is said whether they
answered. -/
structure Stages where
  early : Stage
  reset : Stage
  undone : Stage
  stateAdded : Stage
  acceptingAdded : Stage
  startAccepted : Stage
  selected : Session
  joined : Stage
  toggled : Stage
  clears : Bool
  checks : Bool
  finding : Finding
  late : Stage
  deriving DecidableEq, Repr

namespace Session

variable (session : Session) (toolkit : Toolkit) (entry : Entry)

/-- A button built on a visit answers. -/
def answers (control : Control) (disabled : Bool) : Bool :=
  toolkit.answers ⟨entry.presses control, session.disabled.contains control, disabled⟩

/-- The callback of a button is made. -/
def calls (control : Control) : Bool :=
  toolkit.calls (entry.presses control) (session.disabled.contains control)

/-- The stage after an edit button, given whether it acts. -/
def stage (acts : Bool) (change : Workbench → Except WorkbenchError Workbench) : Stage :=
  let (edited, refusal) := if acts then session.edit (change session.bench) else (session, none)
  ⟨edited, acts, refusal⟩

/-- The stage after the callbacks, given whether it is time for them. At most one is made. -/
def callback (due : Bool) : Stage :=
  if due && session.calls toolkit entry .build then
    let (built, refusal) := session.buildFromSpec
    ⟨built, true, refusal⟩
  else if due && session.calls toolkit entry .loadDefault then
    let (loaded, refusal) := session.loadDefault
    ⟨loaded, true, refusal⟩
  else ⟨session, false, none⟩

/-- Goes through a visit. While a run is on its way all buttons are disabled but the one that clears
the results; the button for going back is disabled if there is nothing to go back to, and the one
that adds a transition if no symbol is chosen. -/
def stages : Stages :=
  let answers := session.answers toolkit entry
  let early := (session.enter toolkit entry).callback toolkit entry toolkit.callsFirst
  let opened := early.session
  let busy := opened.bench.busy
  let reset := opened.stage (answers .reset busy) fun bench => bench.reset.map (·.2)
  let undone := reset.session.stage (answers .undo (busy || !reset.session.bench.canUndo))
    fun bench => bench.undo.map (·.2)
  let stateAdded := undone.session.stage (answers .addState busy) fun bench =>
    (bench.addState false).map (·.2)
  let acceptingAdded := stateAdded.session.stage (answers .addAcceptingState busy) fun bench =>
    (bench.addState true).map (·.2)
  let startAccepted := acceptingAdded.session.stage (answers .startAccepting busy)
    Workbench.acceptStart
  let selected := startAccepted.session.select toolkit
  let joined := selected.stage (answers .addTransition (busy || selected.symbol.isNone))
    fun bench => bench.addTransition selected.firstNode selected.secondNode
      (selected.symbol.getD "")
  let goesOn := joined.failure?.isNone
  let toggled := joined.session.stage (goesOn && answers .toggleAccepting busy) fun bench =>
    bench.setAccepting selected.firstNode (!selected.firstAccepts)
  let clears := goesOn && answers .resetAnimation false
  let checks := goesOn && answers .check busy
  let finding := toggled.session.finding clears checks
  let late := finding.session.callback toolkit entry (goesOn && !toolkit.callsFirst)
  { early, reset, undone, stateAdded, acceptingAdded, startAccepted, selected, joined, toggled,
    clears, checks, finding, late }

end Session

namespace Stages

/-- The session that the page is built for. -/
def opened (stages : Stages) : Session :=
  stages.early.session

/-- The session that the page shows in the end. -/
def shown (stages : Stages) : Session :=
  stages.finding.session

/-- The session after the visit. -/
def last (stages : Stages) : Session :=
  stages.late.session

/-- A run was on its way when the page was built. -/
def busy (stages : Stages) : Bool :=
  stages.opened.bench.busy

/-- The message about the refusal at a stage. -/
def notes (stage : Stage) : List Element :=
  (stage.refusal.map Session.refusalNote).toList

/-- What comes first in the main part. -/
def heading (stages : Stages) : List Element :=
  notes stages.early ++ [.say .title "DFA visualization tool"]

/-- The edit buttons above the selections: the first column, the second column, and the rest. -/
def editButtons (stages : Stages) : List Element :=
  let busy := stages.busy
  [.say .header "1. Edit Automaton",
    .button .reset "Reset DFA" busy,
    .button .addState "Add new state" busy,
    .button .undo "Undo" (busy || !stages.reset.session.bench.canUndo),
    .button .addAcceptingState "Add accepting state" busy] ++
  notes stages.reset ++ notes stages.undone ++ notes stages.stateAdded ++
  notes stages.acceptingAdded ++
  [.button .startAccepting "Make start state accepting" busy] ++ notes stages.startAccepted

/-- The selections and the button for the transition that they make. -/
def selections (stages : Stages) : List Element :=
  let busy := stages.busy
  let session := stages.selected
  let model := session.bench.model
  [.selection .firstNode "Pick state 1:" false session.firstNode model.labels,
    .selection .secondNode "Pick state 2:" false session.secondNode model.labels,
    .choice .symbol "Transition symbol" false session.symbol model.alphabet,
    .button .addTransition "Add transition" (busy || session.symbol.isNone)]

/-- The message about a transition that was refused, and the button that depends on the first
selection. -/
def toggling (stages : Stages) : List Element :=
  notes stages.joined ++
  [.button .toggleAccepting
    (if stages.selected.firstAccepts then "Make state 1 non-accepting"
      else "Make state 1 accepting")
    stages.busy] ++
  notes stages.toggled

/-- The controls for checks. -/
def checkControls (stages : Stages) : List Element :=
  let busy := stages.busy
  let session := stages.toggled.session
  [.say .markdown "---",
    .say .header "2. Test String",
    .textField .inputString
      ("Input string (" ++ ", ".intercalate session.bench.model.alphabet ++ "):") false
      session.inputString,
    .checkBox .animate "Animate String Check" busy session.animate,
    .button .check "Check string" busy,
    .button .resetAnimation "Reset Animations" false]

/-- The main part above the results. -/
def diagram (stages : Stages) : List Element :=
  [.say .subheader "Automaton Structure",
    .drawing stages.finding.drawing,
    .say .subheader "Simulation Results"] ++
  stages.finding.notes

/-- The main part below the results. -/
def specification (stages : Stages) : List Element :=
  [.say .markdown "---",
    .say .subheader "Import DFA Specification",
    .textArea .specText "DFA specification" false stages.shown.specText,
    .button .build "Build DFA from Specification" stages.busy,
    .button .loadDefault "Load Default DFA" stages.busy] ++
  notes stages.late ++
  [.download .exportSpec "Export specification" false]

/-- The page as it is built in the course of the visit. -/
def page (stages : Stages) : Page :=
  let begun := stages.editButtons ++ stages.selections
  match stages.joined.failure? with
  | some error => ⟨stages.heading, begun, some error⟩
  | none =>
    let main := stages.heading ++ stages.diagram
    let sidebar := begun ++ stages.toggling ++ stages.checkControls
    match stages.shown.results with
    | .ok results => ⟨main ++ results ++ stages.specification, sidebar, none⟩
    | .error error => ⟨main, sidebar, some (.automaton error)⟩

end Stages

/-- A visit: the session after it, and the page. -/
def Session.visit (session : Session) (toolkit : Toolkit) (entry : Entry) : Session × Page :=
  let stages := session.stages toolkit entry
  let page := stages.page
  ({ stages.last with disabled := page.disabledControls }, page)

/-- The first control of an entry that the last page showed as disabled. -/
def Session.refusedControl? (session : Session) (entry : Entry) : Option Control :=
  entry.controls.find? session.disabled.contains

end Page

end Acceptor
