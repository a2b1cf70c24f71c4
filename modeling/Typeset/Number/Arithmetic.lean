import Typeset.Number.Binary64

/-!
Sums and products of floating point numbers, rounded once. Finite numbers are combined exactly as
quotients before the result is rounded.
-/

namespace Typeset.Binary64

def negate : Binary64 → Binary64
  | .nan => .nan
  | .infinite s => .infinite (!s)
  | .finite s m e => .finite (!s) m e

def ofScaled (negative : Bool) (n : Nat) (e : Int) : Binary64 :=
  let (p, q) := unscale 2 n 1 (-e)
  ofRatio negative p q

def mul : Binary64 → Binary64 → Binary64
  | .finite s m e, .finite t n f => ofScaled (s != t) (m * n) (e + f)
  | .infinite s, .infinite t => .infinite (s != t)
  | .infinite s, .finite t n _ => if n = 0 then .nan else .infinite (s != t)
  | .finite s m _, .infinite t => if m = 0 then .nan else .infinite (s != t)
  | _, _ => .nan

def inUnits (negative : Bool) (m : Nat) (k e : Int) : Int :=
  let n : Int := (m * Nat.pow 2 (k - e).toNat : Nat)
  if negative then -n else n

/-- The sum, rounded; a sum of zero is negative only if both terms are. -/
def add : Binary64 → Binary64 → Binary64
  | .finite s m e, .finite t n f =>
    let g := min e f
    let total := inUnits s m e g + inUnits t n f g
    if total = 0 then .finite (s && t) 0 minExponent
    else ofScaled (decide (total < 0)) total.natAbs g
  | .infinite s, .infinite t => if s = t then .infinite s else .nan
  | .infinite s, .finite _ _ _ => .infinite s
  | .finite _ _ _, .infinite t => .infinite t
  | _, _ => .nan

@[simp] theorem negate_negate (x : Binary64) : x.negate.negate = x := by
  cases x <;> simp [negate]

end Typeset.Binary64
