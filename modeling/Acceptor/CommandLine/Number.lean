import Acceptor.Run.Delay
import Acceptor.Text.Blank
import Acceptor.Text.Digits

/-!
# Numbers on a command line

How a delay is written: a decimal number with an optional sign, point and exponent, where single
underscores may stand between digits, or one of the words for infinity and for no number. White
space around it does not count, the information separators excepted, and digits of any script do.
-/

namespace Acceptor.CommandLine

/-- A character with a digit of another script replaced by its ASCII counterpart. -/
def plainDigit (c : Char) : Char :=
  match Text.digitValue? c with
  | some value => Char.ofNat ('0'.toNat + value)
  | none => c

/-- Drops the underscores of a number; `none` if one does not stand between two digits. The flag
says whether the character before was a digit. -/
def dropUnderscores (afterDigit : Bool) : List Char → Option (List Char)
  | [] => some []
  | '_' :: c :: rest =>
    if afterDigit && c.isDigit then (dropUnderscores true rest).map (c :: ·) else none
  | '_' :: [] => none
  | c :: rest => (dropUnderscores c.isDigit rest).map (c :: ·)

/-- The value of some digits. -/
def digitsValue (digits : List Char) : Nat :=
  digits.foldl (fun value digit => value * 10 + (digit.toNat - '0'.toNat)) 0

/-- Takes a sign off the front: whether it was a minus, and the rest. -/
def takeSign : List Char → Bool × List Char
  | '-' :: rest => (true, rest)
  | '+' :: rest => (false, rest)
  | cs => (false, cs)

/-- The digits at the front, and the rest. -/
def takeDigits (cs : List Char) : List Char × List Char :=
  (cs.takeWhile Char.isDigit, cs.dropWhile Char.isDigit)

/-- A number with the sign that was taken off. -/
def signed (negative : Bool) (value : Nat) : Int :=
  if negative then -(value : Int) else value

/-- The exponent at the end of a number, zero if there is none. -/
def readExponent? : List Char → Option Int
  | [] => some 0
  | c :: rest =>
    if c = 'e' || c = 'E' then
      let (negative, digits) := takeSign rest
      if !digits.isEmpty && digits.all Char.isDigit then some (signed negative (digitsValue digits))
      else none
    else none

/-- A decimal number without its sign. -/
def readDecimal? (negative : Bool) (cs : List Char) : Option Delay :=
  let (whole, afterWhole) := takeDigits cs
  let (fraction, rest) := match afterWhole with
    | '.' :: behind => takeDigits behind
    | behind => ([], behind)
  if whole.isEmpty && fraction.isEmpty then none
  else
    (readExponent? rest).map fun exponent =>
      .seconds (signed negative (digitsValue (whole ++ fraction))) (exponent - fraction.length)

/-- A delay as it is written on a command line. -/
def readDelay? (text : String) : Option Delay := do
  let written := Text.stripped Text.isWhiteSpace (text.toList.map plainDigit)
  let (negative, number) := takeSign (← dropUnderscores false written)
  let word := String.ofList (number.map Char.toLower)
  if word = "inf" || word = "infinity" then some (.infinite negative)
  else if word = "nan" then some .undefined
  else readDecimal? negative number

end Acceptor.CommandLine
