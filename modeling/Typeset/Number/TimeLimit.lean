import Typeset.Fault
import Typeset.Number

/-!
Time limits. A limit in seconds is understood in whole milliseconds, rounded up; limits that the
system cannot hold are faults.
-/

namespace Typeset

/-- The longest time that the system can wait, in milliseconds. -/
def longestWait : Nat := Nat.pow 2 31 - 1

/-- The least whole number that is not below a quotient. -/
def roundUp (num den : Nat) : Nat := (num + den - 1) / den

namespace Binary64

/-- A number of seconds in milliseconds; what is below zero counts as zero. -/
def milliseconds : Binary64 → Except Fault Nat
  | .nan => .error .notANumber
  | .infinite negative => if negative then .ok 0 else .error .tooLarge
  | .finite negative m e =>
    let (p, q) := unscale 2 m 1 (-e)
    if negative then .ok 0
    else if longestWait < roundUp (1000 * p) q then .error .tooLarge
    else .ok (roundUp (1000 * p) q)

end Binary64

namespace Number

def milliseconds (n : Number) : Except Fault Nat :=
  n.toReal?.elim (.error .tooLarge) Binary64.milliseconds

@[simp] theorem milliseconds_real (x : Binary64) :
    (Number.real x).milliseconds = x.milliseconds := rfl

end Number

theorem milliseconds_nan : Binary64.nan.milliseconds = .error .notANumber := rfl

end Typeset
