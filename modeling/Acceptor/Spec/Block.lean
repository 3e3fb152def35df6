import Acceptor.Spec.Error

/-!
# The block of a specification

A specification is a block `SPEC_DFA = {...}` of named sections; whatever stands around it is not
looked at. The block has a fixed depth, so it is read by a machine that takes one token at a time:
`Place` says what has been read of the section under way and hence what may come next. A token
that may not come next is refused where it stands; a text that ends inside the block is refused
without a place.
-/

namespace Acceptor.Spec

/-- A literal in a value: the text between its quotes, and where it stands. -/
structure Literal where
  content : String
  position : Position
  deriving DecidableEq, Repr

/-- One line of the transition table, placed at its opening parenthesis. -/
structure TableEntry where
  position : Position
  source : Label
  symbol : Symbol
  target : Label
  deriving DecidableEq, Repr

/-- A section with its value. A list also keeps the place of its name. -/
inductive Clause where
  | list (which : ListSection) (key : Position) (items : List Literal)
  | initialState (label : Literal)
  | transitions (entries : List TableEntry)
  deriving DecidableEq, Repr

/-- The section that a clause fills. -/
def Clause.toSection : Clause → Section
  | .list which .. => .list which
  | .initialState _ => .initialState
  | .transitions _ => .transitions

/-- How far the reading of a block has come since its last complete section. Each place is named
for what comes next there. -/
inductive Place where
  /-- A section name or the closing brace of the block. -/
  | name
  /-- The colon after a section name. -/
  | nameColon (named : Section) (key : Position)
  /-- The value of the initial state. -/
  | initialLabel
  /-- The opening brace of a list, or the word `set`. -/
  | listStart (which : ListSection) (key : Position)
  /-- The opening parenthesis after the word `set`. -/
  | setOpen (which : ListSection) (key : Position)
  /-- The closing parenthesis after the word `set`. -/
  | setClose (which : ListSection) (key : Position)
  /-- An item of a list or its closing brace. -/
  | item (which : ListSection) (key : Position) (items : List Literal)
  /-- A comma or the closing brace, after an item of a list. -/
  | itemEnd (which : ListSection) (key : Position) (items : List Literal)
  /-- The opening brace of the transition table. -/
  | tableStart
  /-- The opening parenthesis of a table entry or the closing brace. -/
  | entry (entries : List TableEntry)
  /-- The source of an entry. -/
  | entrySource (entries : List TableEntry) (opened : Position)
  /-- The comma between source and symbol. -/
  | sourceComma (entries : List TableEntry) (opened : Position) (source : Label)
  /-- The symbol of an entry. -/
  | entrySymbol (entries : List TableEntry) (opened : Position) (source : Label)
  /-- The closing parenthesis after a symbol. -/
  | pairClose (entries : List TableEntry) (opened : Position) (source : Label) (symbol : Symbol)
  /-- The colon before a target. -/
  | pairColon (entries : List TableEntry) (opened : Position) (source : Label) (symbol : Symbol)
  /-- The target of an entry. -/
  | entryTarget (entries : List TableEntry) (opened : Position) (source : Label) (symbol : Symbol)
  /-- A comma or the closing brace, after an entry. -/
  | entryEnd (entries : List TableEntry)
  /-- A comma or the closing brace of the block, after a section. -/
  | clauseEnd
  deriving DecidableEq, Repr

/-- The kind of token that a refusal names as expected. Where two kinds may come next it is the
one that is tried last. -/
def Place.expected : Place → TokenKind
  | .name | .initialLabel | .item .. => .literal
  | .entrySource .. | .entrySymbol .. | .entryTarget .. => .literal
  | .nameColon .. | .pairColon .. => .colon
  | .listStart .. | .tableStart => .openBrace
  | .setOpen .. | .entry .. => .openParen
  | .setClose .. | .pairClose .. => .closeParen
  | .sourceComma .. => .comma
  | .itemEnd .. | .entryEnd .. | .clauseEnd => .closeBrace

/-- The section under way at a place. -/
def Place.underWay : Place → Option Section
  | .name | .clauseEnd => none
  | .nameColon named _ => some named
  | .initialLabel => some .initialState
  | .listStart which _ | .setOpen which _ | .setClose which _ | .item which _ _
  | .itemEnd which _ _ => some (.list which)
  | .tableStart | .entry _ | .entrySource .. | .sourceComma .. | .entrySymbol .. | .pairClose ..
  | .pairColon .. | .entryTarget .. | .entryEnd _ => some .transitions

/-- The refusal of a text that ends at a place. -/
def Place.ended (place : Place) : ReadError :=
  match place.underWay with
  | none => ⟨.openBlock, none, none⟩
  | some underWay => ⟨.ended place.expected, some underWay.name, none⟩

/-- The refusal of a token at a place. -/
def Place.refusal (place : Place) (cause : ReadErrorCause) (token : Token) : ReadError :=
  ⟨cause, place.underWay.map Section.name, some token.position⟩

/-- The refusal of a token of the wrong kind. -/
def Place.unexpected (place : Place) (token : Token) : ReadError :=
  place.refusal (.unexpected place.expected token.kind token.text) token

/-- The place where the value of a section is expected. -/
def Section.start (key : Position) : Section → Place
  | .list which => .listStart which key
  | .initialState => .initialLabel
  | .transitions => .tableStart

/-- What one token does: the section under way goes on at another place, it is complete, or the
block is closed. -/
inductive Move where
  | within (place : Place)
  | complete (clause : Clause)
  | closed
  deriving DecidableEq, Repr

/-- A literal inside a value is refused if it holds a carriage return. -/
def Place.value (place : Place) (token : Token) (use : String → Move) : Except ReadError Move :=
  if token.text.toList.contains '\r' then .error (place.refusal .brokenLiteral token)
  else .ok (use token.content)

/-- Opens the section that a name stands for. Unknown names, and names in `filled`, are refused. -/
def openSection (filled : List Section) (token : Token) : Except ReadError Move :=
  let name := token.content
  match Section.ofName? name with
  | none => .error ⟨.unknownSection name, some name, some token.position⟩
  | some named =>
    if filled.contains named then .error ⟨.repeatedSection name, some name, some token.position⟩
    else .ok (.within (.nameColon named token.position))

/-- The move that a token makes at a place, given the sections that are already filled. -/
def Place.move (filled : List Section) (place : Place) (token : Token) : Except ReadError Move :=
  match place, token.kind with
  | .name, .closeBrace => .ok .closed
  | .name, .literal => openSection filled token
  | .nameColon named key, .colon => .ok (.within (named.start key))
  | .initialLabel, .literal =>
    place.value token fun content => .complete (.initialState ⟨content, token.position⟩)
  | .listStart which key, .openBrace => .ok (.within (.item which key []))
  | .listStart which key, .identifier =>
    if token.text = "set" then .ok (.within (.setOpen which key))
    else .error (place.unexpected token)
  | .setOpen which key, .openParen => .ok (.within (.setClose which key))
  | .setClose which key, .closeParen => .ok (.complete (.list which key []))
  | .item which key items, .closeBrace => .ok (.complete (.list which key items))
  | .item which key items, .literal =>
    place.value token fun content =>
      .within (.itemEnd which key (items ++ [⟨content, token.position⟩]))
  | .itemEnd which key items, .comma => .ok (.within (.item which key items))
  | .itemEnd which key items, .closeBrace => .ok (.complete (.list which key items))
  | .tableStart, .openBrace => .ok (.within (.entry []))
  | .entry entries, .closeBrace => .ok (.complete (.transitions entries))
  | .entry entries, .openParen => .ok (.within (.entrySource entries token.position))
  | .entrySource entries opened, .literal =>
    place.value token fun content => .within (.sourceComma entries opened content)
  | .sourceComma entries opened source, .comma => .ok (.within (.entrySymbol entries opened source))
  | .entrySymbol entries opened source, .literal =>
    place.value token fun content => .within (.pairClose entries opened source content)
  | .pairClose entries opened source symbol, .closeParen =>
    .ok (.within (.pairColon entries opened source symbol))
  | .pairColon entries opened source symbol, .colon =>
    .ok (.within (.entryTarget entries opened source symbol))
  | .entryTarget entries opened source symbol, .literal =>
    place.value token fun content =>
      .within (.entryEnd (entries ++ [⟨opened, source, symbol, content⟩]))
  | .entryEnd entries, .comma => .ok (.within (.entry entries))
  | .entryEnd entries, .closeBrace => .ok (.complete (.transitions entries))
  | .clauseEnd, .comma => .ok (.within .name)
  | .clauseEnd, .closeBrace => .ok .closed
  | _, _ => .error (place.unexpected token)

/-- Reads a block from a place on, after some complete clauses, up to its closing brace. -/
def readFrom (clauses : List Clause) (place : Place) : List Token → Except ReadError (List Clause)
  | [] => .error place.ended
  | token :: rest =>
    match place.move (clauses.map Clause.toSection) token with
    | .error error => .error error
    | .ok (.within next) => readFrom clauses next rest
    | .ok (.complete clause) => readFrom (clauses ++ [clause]) .clauseEnd rest
    | .ok .closed => .ok clauses

/-- Two tokens open a block: the word `SPEC_DFA` and an equals sign. -/
def opensBlock (word sign : Token) : Bool :=
  word.kind == .identifier && word.text == "SPEC_DFA" && sign.kind == .equals

/-- The tokens after the opening brace of the first block. The first place where a block opens
decides; if no brace follows there, there is no block. -/
def blockTokens? : List Token → Option (List Token)
  | word :: sign :: rest =>
    if opensBlock word sign then
      match rest with
      | brace :: inner => if brace.kind = .openBrace then some inner else none
      | [] => none
    else blockTokens? (sign :: rest)
  | _ => none

/-- The clauses of the block among some tokens. -/
def readClauses (tokens : List Token) : Except ReadError (List Clause) :=
  match blockTokens? tokens with
  | none => .error ⟨.noBlock, none, none⟩
  | some inner => readFrom [] .name inner

end Acceptor.Spec
