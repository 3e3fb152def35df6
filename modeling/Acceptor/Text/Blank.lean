/-!
# Blanks

The characters that count as white space around and between the symbols of an input, and the
trimming of a text at both ends. The class is the whitespace of Unicode together with the four
information separators U+001C to U+001F; it is wider than the blanks a specification may contain,
which are the space and the tab alone.
-/

namespace Acceptor.Text

/-- The white space of Unicode. -/
def isWhiteSpace (c : Char) : Bool :=
  let code := c.toNat
  (0x09 ≤ code && code ≤ 0x0D) || code == 0x20 || code == 0x85 || code == 0xA0 ||
    code == 0x1680 || (0x2000 ≤ code && code ≤ 0x200A) || code == 0x2028 || code == 0x2029 ||
    code == 0x202F || code == 0x205F || code == 0x3000

/-- The four information separators. -/
def isInformationSeparator (c : Char) : Bool :=
  0x1C ≤ c.toNat && c.toNat ≤ 0x1F

/-- The white space recognised in inputs and stripped from shown texts. -/
def isBlank (c : Char) : Bool :=
  isWhiteSpace c || isInformationSeparator c

/-- A list of characters without those of a class at its two ends. -/
def stripped (drops : Char → Bool) (cs : List Char) : List Char :=
  ((cs.dropWhile drops).reverse.dropWhile drops).reverse

/-- A list of characters without the blanks at its two ends. -/
def trim (cs : List Char) : List Char :=
  stripped isBlank cs

/-- A text without the blanks at its two ends. -/
def trimmed (text : String) : String :=
  String.ofList (trim text.toList)

end Acceptor.Text
