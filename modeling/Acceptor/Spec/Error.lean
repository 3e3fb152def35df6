import Acceptor.Automaton.Error
import Acceptor.Spec.Token

/-!
# Why a specification cannot be read

Every cause of refusal with its wording, and the six kinds that the causes fall into. A refusal
also names the section it arose in and the place in the text, where there is one.
-/

namespace Acceptor.Spec

/-- The sections whose value is a list of literals. -/
inductive ListSection where
  | alphabet
  | states
  | acceptingStates
  deriving DecidableEq, Repr

/-- The sections of a specification. -/
inductive Section where
  | list (which : ListSection)
  | initialState
  | transitions
  deriving DecidableEq, Repr

/-- The name that opens a section. -/
def Section.name : Section → String
  | .list .alphabet => "alphabet"
  | .list .states => "states"
  | .initialState => "initial_state"
  | .list .acceptingStates => "accepting_states"
  | .transitions => "transitions"

/-- All sections. -/
def Section.all : List Section :=
  [.list .alphabet, .list .states, .initialState, .list .acceptingStates, .transitions]

/-- The section with a name. -/
def Section.ofName? (name : String) : Option Section :=
  Section.all.find? (·.name == name)

/-- The kinds of refusal. -/
inductive ReadErrorKind where
  | malformedBlock
  | missingSection
  | duplicateTransition
  | wrongSyntax
  | unknownState
  | unknownSymbol
  deriving DecidableEq, Repr

/-- The causes of refusal. -/
inductive ReadErrorCause where
  | notText
  | noBlock
  | openBlock
  | ended (expected : TokenKind)
  | unexpected (expected : TokenKind) (found : TokenKind) (text : String)
  | unknownSection (name : String)
  | repeatedSection (name : String)
  | brokenLiteral
  | missing (name : String)
  | emptySymbol
  | emptyLabel
  | noStates
  | undeclaredInitial (label : Label)
  | undeclaredAccepting (label : Label)
  | undeclaredEndpoint (label : Label)
  | undeclaredSymbol (symbol : Symbol)
  | contradiction (source : Label) (symbol : Symbol) (first second : Label)
  deriving DecidableEq, Repr

/-- The kind a cause falls into. -/
def ReadErrorCause.kind : ReadErrorCause → ReadErrorKind
  | .notText | .noBlock | .openBlock | .ended _ => .malformedBlock
  | .missing _ => .missingSection
  | .contradiction .. => .duplicateTransition
  | .undeclaredInitial _ | .undeclaredAccepting _ | .undeclaredEndpoint _ => .unknownState
  | .undeclaredSymbol _ => .unknownSymbol
  | .unexpected .. | .unknownSection _ | .repeatedSection _ | .brokenLiteral | .emptySymbol
  | .emptyLabel | .noStates => .wrongSyntax

/-- A text in plain single quotes. -/
def inQuotes (text : String) : String :=
  "'" ++ text ++ "'"

/-- The wording of a cause. -/
def ReadErrorCause.detail : ReadErrorCause → String
  | .notText => "DFA specification must be a string."
  | .noBlock => "Invalid DFA specification format: expected 'SPEC_DFA = \x7b ... \x7d'."
  | .openBlock => "The SPEC_DFA block is never closed."
  | .ended expected =>
    "Unexpected end of specification. Expected " ++ inQuotes expected.name ++ "."
  | .unexpected expected found text =>
    "Expected " ++ inQuotes expected.name ++ " but got " ++
      inQuotes (found.name ++ ":" ++ text) ++ "."
  | .unknownSection name => "Unknown section " ++ inQuotes name ++ "."
  | .repeatedSection name => "Section " ++ inQuotes name ++ " is defined twice."
  | .brokenLiteral => "String literals must not contain line breaks."
  | .missing name => "Could not find " ++ inQuotes name ++ " in specification."
  | .emptySymbol => "Alphabet symbols must not be empty."
  | .emptyLabel => "State names must not be empty."
  | .noStates => "At least one state must be declared."
  | .undeclaredInitial label => "Initial state " ++ inQuotes label ++ " is not declared."
  | .undeclaredAccepting label => "Accepting state " ++ inQuotes label ++ " is not declared."
  | .undeclaredEndpoint label => "Transition state " ++ inQuotes label ++ " is not declared."
  | .undeclaredSymbol symbol =>
    "Transition symbol " ++ inQuotes symbol ++ " is not in the alphabet."
  | .contradiction source symbol first second =>
    "Transition (" ++ inQuotes source ++ ", " ++ inQuotes symbol ++ ") points to both " ++
      inQuotes first ++ " and " ++ inQuotes second ++ "."

/-- A refusal: its cause, the name of the section and the place in the text. -/
structure ReadError where
  cause : ReadErrorCause
  inSection : Option String
  position : Option Position
  deriving DecidableEq, Repr

/-- The kind of a refusal. -/
def ReadError.kind (error : ReadError) : ReadErrorKind :=
  error.cause.kind

/-- The wording of a refusal, led by its place in the text. -/
def ReadError.message (error : ReadError) : String :=
  match error.position with
  | none => error.cause.detail
  | some position =>
    "[Line " ++ toString position.line ++ ", Col " ++ toString position.column ++ "] " ++
      error.cause.detail

/-- A refusal of a whole specification: by its reader, or by the automaton it describes. -/
inductive SpecError where
  | reading (error : ReadError)
  | automaton (error : AutomatonError)
  deriving DecidableEq, Repr

/-- The wording of a refusal. -/
def SpecError.message : SpecError → String
  | .reading error => error.message
  | .automaton error => error.message

end Acceptor.Spec
