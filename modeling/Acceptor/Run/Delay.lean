/-!
# Delays

The time to wait between two frames. A delay may be given as any number, infinite and undefined
ones included; what matters is whether it asks for a wait at all, and for one that a clock can
measure.
-/

namespace Acceptor

/-- A number of seconds: a decimal `mantissa * 10 ^ exponent`, or one of the special values. -/
inductive Delay where
  | seconds (mantissa exponent : Int)
  | infinite (negative : Bool)
  | undefined
  deriving DecidableEq, Repr

namespace Delay

/-- The delay between frames where none is given: one second. -/
def standard : Delay := .seconds 10 (-1)

/-- No delay. -/
def zero : Delay := .seconds 0 0

/-- A delay is waited for only if it is positive. -/
def waits : Delay → Bool
  | .seconds mantissa _ => 0 < mantissa
  | .infinite negative => !negative
  | .undefined => false

/-- The number of nanoseconds from which on a clock of 64 bits cannot measure a wait. -/
def clockRange : Nat := 9223372036854775808

/-- A delay is shorter than the range of a clock. The powers of ten are only computed where they
are comparable to the range or the mantissa. -/
def isMeasurable : Delay → Bool
  | .seconds mantissa exponent =>
    let scale := exponent + 9
    if mantissa ≤ 0 then true
    else if 19 ≤ scale then false
    else if 0 ≤ scale then mantissa.toNat * Nat.pow 10 scale.toNat < clockRange
    else
      mantissa.toNat.log2 < scale.natAbs ||
        mantissa.toNat < clockRange * Nat.pow 10 scale.natAbs
  | .infinite negative => negative
  | .undefined => true

end Delay

end Acceptor
