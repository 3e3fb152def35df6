import Acceptor.Text.Quoted
import Acceptor.Text.UpperCase

/-!
# Log levels

The level given on a command line is checked before anything is read. An empty one stands for the
standard level. The lines that are logged carry the time and are left out of what a command prints;
at most levels there are none.
-/

namespace Acceptor.CommandLine

/-- The level where none is given. -/
def standardLevel : String := "WARNING"

/-- The names of all levels. -/
def levelNames : List String :=
  ["CRITICAL", "FATAL", "ERROR", "WARN", "WARNING", "INFO", "DEBUG", "NOTSET"]

/-- The levels at which commands log lines of their own on standard error. -/
def loggingLevels : List String :=
  ["INFO", "DEBUG"]

/-- A level that does not exist, in upper case. -/
structure UnknownLevel where
  name : String
  deriving DecidableEq, Repr

/-- The wording of an unknown level. -/
def UnknownLevel.message (unknown : UnknownLevel) : String :=
  "Unknown level: " ++ Text.quoted unknown.name

/-- The level that a name in any case stands for. -/
def levelOf (given : String) : Except UnknownLevel String :=
  let name := Text.upperCase (if given.isEmpty then standardLevel else given)
  if levelNames.contains name then .ok name else .error ⟨name⟩

end Acceptor.CommandLine
