import Acceptor.Run.Trace
import Acceptor.Text.Blank

/-!
# Elements of the page

What the page consists of: texts, drawings, tables and controls, each control with its label, its
state and its value. Nothing is said about how they look.
-/

namespace Acceptor.Page

/-- The controls of the page. -/
inductive Control where
  | reset
  | undo
  | addState
  | addAcceptingState
  | startAccepting
  | firstNode
  | secondNode
  | symbol
  | addTransition
  | toggleAccepting
  | inputString
  | animate
  | check
  | resetAnimation
  | specText
  | build
  | loadDefault
  | exportSpec
  deriving DecidableEq, Repr

/-- The key of a control. -/
def Control.key : Control → String
  | .reset => "reset"
  | .undo => "undo"
  | .addState => "add_state"
  | .addAcceptingState => "add_accepting_state"
  | .startAccepting => "start_accepting"
  | .firstNode => "first_node"
  | .secondNode => "second_node"
  | .symbol => "symbol"
  | .addTransition => "add_transition"
  | .toggleAccepting => "toggle_accepting"
  | .inputString => "input_string"
  | .animate => "animate"
  | .check => "check"
  | .resetAnimation => "reset_animation"
  | .specText => "spec_text"
  | .build => "build"
  | .loadDefault => "load_default"
  | .exportSpec => "export"

/-- The buttons that can be pressed. -/
def Control.buttons : List Control :=
  [.reset, .undo, .addState, .addAcceptingState, .startAccepting, .addTransition, .toggleAccepting,
    .check, .resetAnimation, .build, .loadDefault]

/-- The ways a text is set. -/
inductive TextStyle where
  | title
  | header
  | subheader
  | markdown
  | caption
  | info
  | success
  | error
  deriving DecidableEq, Repr

/-- One element of the page. -/
inductive Element where
  | text (style : TextStyle) (body : String)
  | drawing (dot : String)
  | table (rows : List TraceRow)
  | button (control : Control) (label : String) (disabled : Bool)
  | download (control : Control) (label : String) (disabled : Bool)
  | selection (control : Control) (label : String) (disabled : Bool) (value : StateId)
      (options : List Label)
  | choice (control : Control) (label : String) (disabled : Bool) (value : Option Symbol)
      (options : List Symbol)
  | textField (control : Control) (label : String) (disabled : Bool) (value : String)
  | textArea (control : Control) (label : String) (disabled : Bool) (value : String)
  | checkBox (control : Control) (label : String) (disabled : Bool) (value : Bool)
  deriving DecidableEq, Repr

/-- The control that an element shows as disabled. -/
def Element.disabledControl? : Element → Option Control
  | .button control _ disabled | .download control _ disabled
  | .selection control _ disabled _ _ | .choice control _ disabled _ _
  | .textField control _ disabled _ | .textArea control _ disabled _
  | .checkBox control _ disabled _ => if disabled then some control else none
  | .text .. | .drawing _ | .table _ => none

/-- A line of spaces and tabs alone counts as empty. -/
def bareLine (line : String) : String :=
  if line.toList.all fun c => c == ' ' || c == '\t' then "" else line

/-- A text as the page shows it: lines of blanks are emptied and blanks at both ends dropped. -/
def shownText (body : String) : String :=
  Text.trimmed ("\n".intercalate ((body.splitOn "\n").map bareLine))

/-- A text element. -/
def Element.say (style : TextStyle) (body : String) : Element :=
  .text style (shownText body)

end Acceptor.Page
