import Acceptor.Text.Digits

/-!
# Words of a command line

What a single argument is taken for: a value, an option, or the separator `--` behind which
everything is a value. An option may be shortened as long as it stays unique, and may carry its
value behind an equals sign. Negative numbers and texts with a space are values although they start
with a hyphen. What starts with a hyphen and is neither is either unknown or short for several
options at once.
-/

namespace Acceptor.CommandLine

/-- What an argument is taken for. -/
inductive Word where
  | value (text : String)
  | separator
  | option (name : String) (given : Option String)
  | unknown
  | ambiguous
  deriving DecidableEq, Repr

/-- The argument behind which everything is a value. -/
def separatorText : String := "--"

/-- A text in two at its first equals sign. -/
def splitAssignment (cs : List Char) : List Char × Option (List Char) :=
  match cs.dropWhile (· != '=') with
  | [] => (cs, none)
  | _ :: given => (cs.takeWhile (· != '='), some given)

/-- At least one decimal digit and nothing else. -/
def isDigits (cs : List Char) : Bool :=
  !cs.isEmpty && cs.all Text.isDecimalDigit

/-- A minus sign and a number with or without a decimal point. A line feed at the very end does not
count. -/
def isNegativeNumber (cs : List Char) : Bool :=
  let cs := if cs.getLast? == some '\n' then cs.dropLast else cs
  match cs with
  | '-' :: number =>
    isDigits number ||
      match number.dropWhile Text.isDecimalDigit with
      | '.' :: fraction => isDigits fraction
      | _ => false
  | _ => false

/-- The options that an argument may be short for, each with the value it carries. -/
def candidates (known : List String) (cs : List Char) : List (String × Option String) :=
  if "--".toList.isPrefixOf cs then
    let (name, given) := splitAssignment cs
    (known.filter fun option => name.isPrefixOf option.toList).map fun option =>
      (option, given.map String.ofList)
  else
    known.filterMap fun option =>
      if option.toList = cs.take 2 then some (option, some (String.ofList (cs.drop 2)))
      else if cs.isPrefixOf option.toList then some (option, none)
      else none

/-- What an argument that starts with a hyphen is taken for. -/
def hyphenWord (known : List String) (arg : String) : Word :=
  let cs := arg.toList
  if known.contains arg then .option arg none
  else if cs.length = 1 then .value arg
  else
    match splitAssignment cs, candidates known cs with
    | (name, some given), found =>
      if known.contains (String.ofList name) then
        .option (String.ofList name) (some (String.ofList given))
      else settle found cs
    | (_, none), found => settle found cs
where
  /-- One candidate is taken, several are ambiguous, and without any the shape of the text
  decides. -/
  settle (found : List (String × Option String)) (cs : List Char) : Word :=
    match found with
    | [(option, given)] => .option option given
    | _ :: _ :: _ => .ambiguous
    | [] => if isNegativeNumber cs || cs.contains ' ' then .value arg else .unknown

/-- What an argument is taken for where some options are known. -/
def Word.ofArgument (known : List String) (arg : String) : Word :=
  if arg = separatorText then .separator
  else if arg.toList.head? == some '-' then hyphenWord known arg
  else .value arg

/-- What each of several arguments is taken for. -/
def Word.ofArguments (known : List String) : List String → List Word
  | [] => []
  | arg :: rest =>
    match Word.ofArgument known arg with
    | .separator => .separator :: rest.map .value
    | word => word :: Word.ofArguments known rest

end Acceptor.CommandLine
