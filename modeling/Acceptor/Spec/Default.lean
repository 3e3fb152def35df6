/-!
# The default specification

The example automaton that is at hand without any file: six states over three symbols, of which
one accepts.
-/

namespace Acceptor.Spec

/-- The lines of the default specification. -/
def defaultLines : List String :=
  [
    "SPEC_DFA = \x7b",
    "    'alphabet': \x7b'0', 'A', 'C'\x7d,",
    "    'states': \x7b'q0', 'q1', 'q2', 'q3', 'q4', 'q5'\x7d,",
    "    'initial_state': 'q0',",
    "    'accepting_states': \x7b'q3'\x7d,",
    "    'transitions': \x7b",
    "        ('q0', 'C'): 'q0',",
    "        ('q0', 'A'): 'q1',",
    "        ('q0', '0'): 'q4',",
    "",
    "        ('q1', 'C'): 'q2',",
    "        ('q1', 'A'): 'q1',",
    "        ('q1', '0'): 'q4',",
    "",
    "        ('q2', 'A'): 'q1',",
    "        ('q2', '0'): 'q3',",
    "        ('q2', 'C'): 'q0',",
    "",
    "        ('q3', '0'): 'q4',",
    "        ('q3', 'A'): 'q1',",
    "        ('q3', 'C'): 'q0',",
    "",
    "        ('q4', 'C'): 'q5',",
    "        ('q4', '0'): 'q4',",
    "        ('q4', 'A'): 'q1',",
    "",
    "        ('q5', 'C'): 'q0',",
    "        ('q5', 'A'): 'q3',",
    "        ('q5', '0'): 'q4',",
    "    \x7d",
    "\x7d"
  ]

/-- The text of the default specification. -/
def defaultText : String :=
  "\n".intercalate defaultLines

end Acceptor.Spec
