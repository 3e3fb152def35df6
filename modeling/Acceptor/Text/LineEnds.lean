/-!
# Line ends

Files and standard input are read with every style of line end brought to the one the
specification reader counts lines by.
-/

namespace Acceptor.Text

/-- A carriage return, with or without a line feed after it, becomes a line feed. -/
def unifyLineEndsIn : List Char → List Char
  | '\r' :: '\n' :: rest => '\n' :: unifyLineEndsIn rest
  | '\r' :: rest => '\n' :: unifyLineEndsIn rest
  | c :: rest => c :: unifyLineEndsIn rest
  | [] => []

/-- A text in which every line end is a line feed. -/
def unifyLineEnds (text : String) : String :=
  String.ofList (unifyLineEndsIn text.toList)

end Acceptor.Text
