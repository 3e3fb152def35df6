import Acceptor.Diagram.Dot.Quoting

/-!
# Tokens of the DOT language

The lexical rules of the graph language DOT, as a machine that reads one character at a time. A text
in double quotes ends at the first quote that no backslash escapes. Of the escapes only the one of a
quote stands for something else and a line end behind a backslash for nothing; a pair of backslashes
stays a pair. A text in angle brackets is markup, with its inner brackets in balance.

Lines for a preprocessor are not read, nor texts joined by a plus sign.
-/

namespace Acceptor.Dot

/-- The signs that stand alone. -/
inductive Sign where
  | openBrace
  | closeBrace
  | openBracket
  | closeBracket
  | equals
  | semicolon
  | comma
  | colon
  deriving DecidableEq, Repr

/-- A sign as it is written. -/
def Sign.char : Sign → Char
  | .openBrace => '\x7b'
  | .closeBrace => '\x7d'
  | .openBracket => '['
  | .closeBracket => ']'
  | .equals => '='
  | .semicolon => ';'
  | .comma => ','
  | .colon => ':'

/-- The sign that a character is. -/
def Sign.ofChar? (c : Char) : Option Sign :=
  [openBrace, closeBrace, openBracket, closeBracket, equals, semicolon, comma, colon].find?
    (·.char == c)

/-- What a graph text consists of. Keywords are given in lower case, and markup without its outer
brackets. -/
inductive Token where
  | text (value : String)
  | markup (value : String)
  | keyword (word : String)
  | sign (sign : Sign)
  | arrow
  | line
  deriving DecidableEq, Repr

/-- What has been begun and not ended, with the characters it consists of so far. -/
inductive Mode where
  | between
  | name (read : List Char)
  | numeral (read : List Char)
  | minus
  | quoted (read : List Char)
  | escape (read : List Char)
  | markup (depth : Nat) (read : List Char)
  | slash
  | lineComment
  | blockComment
  | blockEnd
  deriving DecidableEq, Repr

/-- The blanks between tokens. -/
def isSpace (c : Char) : Bool :=
  c == ' ' || c == '\t' || c == '\n' || c == '\r'

/-- The characters that a name can start with: letters, the underscore and all beyond ASCII. -/
def isNameStart (c : Char) : Bool :=
  isWordStart c || 128 ≤ c.toNat

/-- The characters of numerals, a leading minus sign apart. -/
def isNumeralChar (c : Char) : Bool :=
  c.isDigit || c == '.'

/-- A name is a keyword or stands for itself. -/
def nameToken (cs : List Char) : Token :=
  if isKeyword cs then .keyword (String.ofList (cs.map Char.toLower)) else .text (String.ofList cs)

/-- Between tokens: a character is one, or begins something. -/
def begin? (c : Char) : Option (List Token × Mode) :=
  if isNameStart c then some ([], .name [c])
  else if isNumeralChar c then some ([], .numeral [c])
  else if isSpace c then some ([], .between)
  else if c == '"' then some ([], .quoted [])
  else if c == '<' then some ([], .markup 0 [])
  else if c == '-' then some ([], .minus)
  else if c == '/' then some ([], .slash)
  else (Sign.ofChar? c).map fun sign => ([.sign sign], .between)

/-- Ends a token before a character that does not belong to it. -/
def endBefore (token : Token) (c : Char) : Option (List Token × Mode) :=
  (begin? c).map fun (tokens, mode) => (token :: tokens, mode)

/-- Reads a character. Numerals that are none are refused. -/
def step : Mode → Char → Option (List Token × Mode)
  | .between, c => begin? c
  | .name read, c =>
    if isNameStart c || c.isDigit then some ([], .name (read ++ [c]))
    else endBefore (nameToken read) c
  | .numeral read, c =>
    if isNumeralChar c then some ([], .numeral (read ++ [c]))
    else if isNumeral read then endBefore (.text (String.ofList read)) c
    else none
  | .minus, c =>
    if c == '>' then some ([.arrow], .between)
    else if c == '-' then some ([.line], .between)
    else if isNumeralChar c then some ([], .numeral ['-', c])
    else none
  | .quoted read, c =>
    if c == '"' then some ([.text (String.ofList read)], .between)
    else if c == '\\' then some ([], .escape read)
    else some ([], .quoted (read ++ [c]))
  | .escape read, c =>
    if c == '"' then some ([], .quoted (read ++ ['"']))
    else if c == '\n' then some ([], .quoted read)
    else some ([], .quoted (read ++ ['\\', c]))
  | .markup depth read, c =>
    if c == '<' then some ([], .markup (depth + 1) (read ++ [c]))
    else if c == '>' then
      match depth with
      | 0 => some ([.markup (String.ofList read)], .between)
      | outer + 1 => some ([], .markup outer (read ++ [c]))
    else some ([], .markup depth (read ++ [c]))
  | .slash, c =>
    if c == '/' then some ([], .lineComment)
    else if c == '*' then some ([], .blockComment)
    else none
  | .lineComment, c => some ([], if c == '\n' then .between else .lineComment)
  | .blockComment, c => some ([], if c == '*' then .blockEnd else .blockComment)
  | .blockEnd, c =>
    some ([], if c == '/' then .between else if c == '*' then .blockEnd else .blockComment)

/-- Ends a text. What has to be closed has to be closed before. -/
def finish : Mode → Option (List Token)
  | .between | .lineComment => some []
  | .name read => some [nameToken read]
  | .numeral read => if isNumeral read then some [.text (String.ofList read)] else none
  | .minus | .quoted _ | .escape _ | .markup .. | .slash | .blockComment | .blockEnd => none

/-- The tokens of a text, the first of which may have been begun. -/
def scan (mode : Mode) : List Char → Option (List Token)
  | [] => finish mode
  | c :: cs => (step mode c).bind fun (tokens, next) => (scan next cs).map (tokens ++ ·)

/-- The tokens of a graph text. -/
def tokens? (text : String) : Option (List Token) :=
  scan .between text.toList

end Acceptor.Dot
