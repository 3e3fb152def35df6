import Acceptor.Automaton.Build
import Acceptor.Distinct
import Acceptor.Spec.Block
import Acceptor.Spec.Lexeme

/-!
# Reading a specification

From the clauses of a block to the automaton they describe. The checks run in a fixed order, which
decides the error of a text with several: missing sections, then the alphabet, the states, the
initial state, the accepting states and the transitions one by one. A name listed twice counts
once; a transition listed twice counts once too, unless it leads to two states.
-/

namespace Acceptor.Spec

/-- The first clause that fills a list section: the place of its name, and its items. -/
def listClause? (which : ListSection) (clauses : List Clause) :
    Option (Position × List Literal) :=
  clauses.findSome? fun
    | .list other key items => if other = which then some (key, items) else none
    | _ => none

/-- The label of the first clause that gives the initial state. -/
def initialClause? (clauses : List Clause) : Option Literal :=
  clauses.findSome? fun
    | .initialState label => some label
    | _ => none

/-- The entries of the first transition table, none if there is no table. -/
def tableEntries (clauses : List Clause) : List TableEntry :=
  (clauses.findSome? fun
    | .transitions entries => some entries
    | _ => none).getD []

/-- A clause that has to be there. -/
def required {α : Type} (named : Section) (clause : Option α) : Except ReadError α :=
  match clause with
  | some value => .ok value
  | none => .error ⟨.missing named.name, some named.name, none⟩

/-- Refuses the first literal of a list that fails a test. -/
def requireAll (named : Section) (test : String → Bool) (cause : String → ReadErrorCause)
    (items : List Literal) : Except ReadError Unit :=
  match items.find? (!test ·.content) with
  | none => .ok ()
  | some item => .error ⟨cause item.content, some named.name, some item.position⟩

/-- Adds an entry to the transitions described so far, after checking it against the declared
states, the alphabet and the earlier entries. -/
def addEntry (states : List Label) (alphabet : List Symbol)
    (taken : List (Label × Symbol × Label)) (entry : TableEntry) :
    Except ReadError (List (Label × Symbol × Label)) :=
  let refuse (cause : ReadErrorCause) : Except ReadError (List (Label × Symbol × Label)) :=
    .error ⟨cause, some Section.transitions.name, some entry.position⟩
  if !states.contains entry.source then refuse (.undeclaredEndpoint entry.source)
  else if !states.contains entry.target then refuse (.undeclaredEndpoint entry.target)
  else if !alphabet.contains entry.symbol then refuse (.undeclaredSymbol entry.symbol)
  else
    let repeats (earlier : Label × Symbol × Label) : Bool :=
      earlier.1 == entry.source && earlier.2.1 == entry.symbol
    match taken.find? repeats with
    | none => .ok (taken ++ [(entry.source, entry.symbol, entry.target)])
    | some (_, _, existing) =>
      if existing = entry.target then .ok taken
      else refuse (.contradiction entry.source entry.symbol existing entry.target)

/-- Adds entries one after the other. -/
def addEntries (states : List Label) (alphabet : List Symbol) :
    List (Label × Symbol × Label) → List TableEntry →
      Except ReadError (List (Label × Symbol × Label))
  | taken, [] => .ok taken
  | taken, entry :: rest => do
    addEntries states alphabet (← addEntry states alphabet taken entry) rest

/-- The description that the clauses of a block amount to. -/
def listing (clauses : List Clause) : Except ReadError (Listing Label) := do
  let (_, symbols) ← required (.list .alphabet) (listClause? .alphabet clauses)
  let (statesKey, labels) ← required (.list .states) (listClause? .states clauses)
  let initial ← required .initialState (initialClause? clauses)
  let (_, accepting) ← required (.list .acceptingStates) (listClause? .acceptingStates clauses)
  requireAll (.list .alphabet) (!·.isEmpty) (fun _ => .emptySymbol) symbols
  requireAll (.list .states) (!·.isEmpty) (fun _ => .emptyLabel) labels
  if labels.isEmpty then throw ⟨.noStates, some (Section.list .states).name, some statesKey⟩
  let alphabet := distinct (symbols.map Literal.content)
  let states := distinct (labels.map Literal.content)
  requireAll .initialState states.contains .undeclaredInitial [initial]
  requireAll (.list .acceptingStates) states.contains .undeclaredAccepting accepting
  let transitions ← addEntries states alphabet [] (tableEntries clauses)
  return {
    states, alphabet, transitions
    initial := initial.content
    accepting := accepting.map Literal.content }

/-- The description among some tokens. -/
def listingOf (tokens : List Token) : Except ReadError (Listing Label) := do
  listing (← readClauses tokens)

/-- The automaton described by some tokens. -/
def automatonOf (tokens : List Token) : Except SpecError Automaton :=
  match listingOf tokens with
  | .error error => .error (.reading error)
  | .ok listing => (listing.build).mapError .automaton

/-- The automaton that a text specifies. -/
def parse (text : String) : Except SpecError Automaton :=
  automatonOf (tokens text)

/-- The automaton specified by an input that may not be a text at all. -/
def parseInput : Option String → Except SpecError Automaton
  | none => .error (.reading ⟨.notText, none, none⟩)
  | some text => parse text

end Acceptor.Spec
