import Acceptor.Spec.Token

/-!
# Lexemes

A text is cut into lexemes from left to right without loss: `lexemes_flatten` says that they join
up to the text again. Blanks, line ends and comments are lexemes as well; only the others become
tokens. A quote that is not closed on its own line opens nothing and stands for itself.
-/

namespace Acceptor.Spec

/-- The kinds of lexemes: those of tokens, and the three that are dropped. -/
inductive LexemeKind where
  | token (kind : TokenKind)
  | comment
  | blank
  | lineEnd
  deriving DecidableEq, Repr

/-- A piece of a text. -/
structure Lexeme where
  kind : LexemeKind
  text : List Char
  deriving DecidableEq, Repr

/-- The characters a name can start with: ASCII letters and the underscore. -/
def isNameStart (c : Char) : Bool :=
  c.isAlpha || c == '_'

/-- The characters a name can go on with. -/
def isNamePart (c : Char) : Bool :=
  isNameStart c || c.isDigit

/-- The characters between the tokens of one line. -/
def isSpacing (c : Char) : Bool :=
  c == ' ' || c == '\t'

/-- The characters that are tokens by themselves. -/
def punctuation? : Char → Option TokenKind
  | '=' => some .equals
  | '\x7b' => some .openBrace
  | '\x7d' => some .closeBrace
  | '(' => some .openParen
  | ')' => some .closeParen
  | ',' => some .comma
  | ':' => some .colon
  | _ => none

/-- A character that does not end the line. -/
def staysOnLine (c : Char) : Bool :=
  c != '\n'

/-- A character that can stand inside a literal opened by a quote. -/
def staysInLiteral (quote c : Char) : Bool :=
  c != quote && c != '\n'

/-- The characters of a literal after its opening quote, closing quote included, and the rest;
`none` if the line or the text ends first. -/
def closeLiteral? (quote : Char) (cs : List Char) : Option (List Char × List Char) :=
  match cs.dropWhile (staysInLiteral quote) with
  | c :: rest =>
    if c == quote then some (cs.takeWhile (staysInLiteral quote) ++ [quote], rest) else none
  | [] => none

/-- The lexeme at the front of a text that starts with the character `c`, and the rest. -/
def firstLexeme (c : Char) (cs : List Char) : Lexeme × List Char :=
  if c == '#' then
    (⟨.comment, c :: cs.takeWhile staysOnLine⟩, cs.dropWhile staysOnLine)
  else if c == '\'' || c == '"' then
    match closeLiteral? c cs with
    | some (body, rest) => (⟨.token .literal, c :: body⟩, rest)
    | none => (⟨.token .unknown, [c]⟩, cs)
  else if isNameStart c then
    (⟨.token .identifier, c :: cs.takeWhile isNamePart⟩, cs.dropWhile isNamePart)
  else if isSpacing c then
    (⟨.blank, c :: cs.takeWhile isSpacing⟩, cs.dropWhile isSpacing)
  else if c == '\n' then
    (⟨.lineEnd, [c]⟩, cs)
  else if c == '\r' then
    match cs with
    | '\n' :: rest => (⟨.lineEnd, [c, '\n']⟩, rest)
    | _ => (⟨.token .unknown, [c]⟩, cs)
  else
    (⟨.token ((punctuation? c).getD .unknown), [c]⟩, cs)

theorem closeLiteral?_append {quote : Char} {cs body rest : List Char}
    (closed : closeLiteral? quote cs = some (body, rest)) : body ++ rest = cs := by
  unfold closeLiteral? at closed
  split at closed
  · next c after dropped =>
    split at closed
    · next same =>
      obtain ⟨rfl, rfl⟩ := Prod.mk.inj (Option.some.inj closed)
      have joined := List.takeWhile_append_dropWhile (p := staysInLiteral quote) (l := cs)
      rw [dropped, eq_of_beq same] at joined
      simpa using joined
    · simp at closed
  · simp at closed

/-- The first lexeme and the rest join up to the text. -/
theorem firstLexeme_append (c : Char) (cs : List Char) :
    (firstLexeme c cs).1.text ++ (firstLexeme c cs).2 = c :: cs := by
  unfold firstLexeme
  split
  · simp
  split
  · split
    · next closed => simp [closeLiteral?_append closed]
    · rfl
  repeat' split
  all_goals simp

/-- The first lexeme starts with the first character, so it is not empty. -/
theorem firstLexeme_head (c : Char) (cs : List Char) :
    (firstLexeme c cs).1.text.head? = some c := by
  unfold firstLexeme
  repeat' split
  all_goals simp

/-- What follows the first lexeme is no longer than what follows the first character. -/
theorem firstLexeme_rest_length (c : Char) (cs : List Char) :
    (firstLexeme c cs).2.length ≤ cs.length := by
  have joined := congrArg List.length (firstLexeme_append c cs)
  have head := firstLexeme_head c cs
  cases text : (firstLexeme c cs).1.text with
  | nil => simp [text] at head
  | cons first others =>
    simp only [text, List.length_append, List.length_cons] at joined
    omega

/-- The lexemes of a text, from left to right. -/
def lexemes : List Char → List Lexeme
  | [] => []
  | c :: cs => (firstLexeme c cs).1 :: lexemes (firstLexeme c cs).2
termination_by cs => cs.length
decreasing_by
  have shorter := firstLexeme_rest_length c cs
  simp only [List.length_cons]
  omega

/-- Lexemes join up to the text they were cut from. -/
theorem lexemes_flatten (cs : List Char) :
    ((lexemes cs).map Lexeme.text).flatten = cs := by
  fun_induction lexemes cs with
  | case1 => rfl
  | case2 c cs inductionHypothesis =>
    simp only [List.map_cons, List.flatten_cons, inductionHypothesis, firstLexeme_append]

/-- The tokens among some lexemes. Every lexeme advances the column by its length, except that a
line end starts the next line. -/
def tokensFrom : Position → List Lexeme → List Token
  | _, [] => []
  | position, lexeme :: rest =>
    let next : Position := { position with column := position.column + lexeme.text.length }
    match lexeme.kind with
    | .lineEnd => tokensFrom ⟨position.line + 1, 1⟩ rest
    | .token kind => ⟨kind, String.ofList lexeme.text, position⟩ :: tokensFrom next rest
    | .comment => tokensFrom next rest
    | .blank => tokensFrom next rest

/-- The tokens of a text. -/
def tokens (text : String) : List Token :=
  tokensFrom ⟨1, 1⟩ (lexemes text.toList)

end Acceptor.Spec
