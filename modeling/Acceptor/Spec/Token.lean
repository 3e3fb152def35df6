/-!
# Tokens of a specification

What a specification text consists of once blanks, line ends and comments are dropped. Every token
carries the place of its first character.
-/

namespace Acceptor.Spec

/-- The kinds of tokens. A character that starts nothing else is a token of its own, of kind
`unknown`, which no specification contains. -/
inductive TokenKind where
  | literal
  | identifier
  | equals
  | openBrace
  | closeBrace
  | openParen
  | closeParen
  | comma
  | colon
  | unknown
  deriving DecidableEq, Repr

/-- The name of a kind in messages. -/
def TokenKind.name : TokenKind → String
  | .literal => "STRING"
  | .identifier => "IDENTIFIER"
  | .equals => "EQUALS"
  | .openBrace => "LBRACE"
  | .closeBrace => "RBRACE"
  | .openParen => "LPAREN"
  | .closeParen => "RPAREN"
  | .comma => "COMMA"
  | .colon => "COLON"
  | .unknown => "UNKNOWN"

/-- A place in a text: line and column, both counted from 1. -/
structure Position where
  line : Nat
  column : Nat
  deriving DecidableEq, Repr

/-- A token with its text and the place of its first character. -/
structure Token where
  kind : TokenKind
  text : String
  position : Position
  deriving DecidableEq, Repr

/-- The text between the quotes of a literal, which holds no escapes. -/
def Token.content (token : Token) : String :=
  String.ofList token.text.toList.tail.dropLast

end Acceptor.Spec
