import Acceptor.Text.Quoted

/-!
# Texts that fit into a literal

Labels and symbols are written unescaped between quotes, so a text is usable as one only if it is
not empty, stays on one line and leaves one of the two quote characters free. The module holds the
test, its three causes of refusal and their wording.
-/

namespace Acceptor

/-- Why a text cannot be written as a literal. -/
inductive LiteralFault where
  | empty
  | lineBreak
  | bothQuotes
  deriving DecidableEq, Repr

/-- A refused text together with what it was meant for. -/
structure LiteralError where
  subject : String
  text : String
  fault : LiteralFault
  deriving DecidableEq, Repr

/-- The wording of a refusal. -/
def LiteralError.message (error : LiteralError) : String :=
  match error.fault with
  | .empty => error.subject ++ " must be non-empty strings."
  | .lineBreak =>
    error.subject ++ " must not contain line breaks: " ++ Text.quoted error.text ++ "."
  | .bothQuotes =>
    error.subject ++ " must not contain both quote characters: " ++ Text.quoted error.text ++ "."

/-- The first reason that keeps a text from being a literal, `none` if it is usable. -/
def literalFault? (text : String) : Option LiteralFault :=
  let cs := text.toList
  if cs.isEmpty then some .empty
  else if cs.contains '\n' || cs.contains '\r' then some .lineBreak
  else if cs.contains '\'' && cs.contains '"' then some .bothQuotes
  else none

/-- A usable text is returned as it is. -/
def checkLiteral (subject text : String) : Except LiteralError String :=
  match literalFault? text with
  | none => .ok text
  | some fault => .error ⟨subject, text, fault⟩

end Acceptor
