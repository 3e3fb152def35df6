import Acceptor.Automaton.Basic
import Acceptor.Text.Blank

/-!
# Inputs as symbols

How a typed input is read as symbols. If a blank or a comma stands inside it, the pieces between
these separators are the symbols; otherwise every character is one.
-/

namespace Acceptor

/-- The characters that separate the symbols of an input. -/
def isSeparator (c : Char) : Bool :=
  Text.isBlank c || c == ','

/-- The pieces of an input between its separators, empty pieces included. -/
def pieces : List Char → List (List Char)
  | [] => [[]]
  | c :: rest => if isSeparator c then [] :: pieces rest else (pieces rest).modifyHead (c :: ·)

/-- The symbols of an input. -/
def inputSymbols (text : String) : List Symbol :=
  let typed := Text.trim text.toList
  let words :=
    if typed.any isSeparator then (pieces typed).filter (!·.isEmpty)
    else typed.map fun c => [c]
  words.map String.ofList

/-- The symbols of an input that may be absent. -/
def inputSymbols? (text : Option String) : List Symbol :=
  inputSymbols (text.getD "")

end Acceptor
