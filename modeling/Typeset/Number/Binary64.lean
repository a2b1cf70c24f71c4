/-!
Binary floating point with 53 bits. A finite number is a sign, a significand and a power of two;
`ofRatio` rounds a quotient of natural numbers to the nearest such number, a half going to the
even significand. Comparisons and conversions stay within the integers.
-/

namespace Typeset

/-- A floating point number; a finite one is `± significand * 2 ^ exponent`. -/
inductive Binary64
  | nan
  | infinite (negative : Bool)
  | finite (negative : Bool) (significand : Nat) (exponent : Int)
  deriving DecidableEq

/-- The nearest integer to `num / den`; a half goes to the even neighbour. -/
def roundHalfEven (num den : Nat) : Nat :=
  let q := num / den
  let r := num % den
  if 2 * r < den then q else if den < 2 * r then q + 1 else if q % 2 = 0 then q else q + 1

/-- `num / den` divided by `b ^ e`, again as a quotient. -/
def unscale (b : Nat) (num den : Nat) (e : Int) : Nat × Nat :=
  if 0 ≤ e then (num, den * Nat.pow b e.toNat) else (num * Nat.pow b (-e).toNat, den)

namespace Binary64

def minExponent : Int := -1074

def maxExponent : Int := 971

def zero : Binary64 := .finite false 0 minExponent

def one : Binary64 := .finite false (Nat.pow 2 52) (-52)

def bounded (negative : Bool) (m : Nat) (e : Int) : Binary64 :=
  if maxExponent < e then .infinite negative else .finite negative m e

def ofRatio (negative : Bool) (num den : Nat) : Binary64 :=
  if num = 0 then .finite negative 0 minExponent
  else
    let guess : Int := (num.log2 : Int) - den.log2
    let (p, q) := unscale 2 num den guess
    let top := if p < q then guess - 1 else guess
    let e := max (top - 52) minExponent
    let (p, q) := unscale 2 num den e
    let m := roundHalfEven p q
    if m = Nat.pow 2 53 then bounded negative (Nat.pow 2 52) (e + 1) else bounded negative m e

def ofDecimal (negative : Bool) (digits : Nat) (e : Int) : Binary64 :=
  let length : Int := (Nat.toDigits 10 digits).length
  if digits = 0 then .finite negative 0 minExponent
  else if 310 < length + e then .infinite negative
  else if length + e < -330 then .finite negative 0 minExponent
  else
    let (p, q) := unscale 10 digits 1 (-e)
    ofRatio negative p q

/-- The number nearest to an integer, unless that is infinite. -/
def ofInt? (n : Int) : Option Binary64 :=
  match ofRatio (decide (n < 0)) n.natAbs 1 with
  | .infinite _ => none
  | x => some x

def isPositive : Binary64 → Bool
  | .nan => false
  | .infinite negative => !negative
  | .finite negative m _ => !negative && m != 0

def isNonPositive : Binary64 → Bool
  | .nan => false
  | .infinite negative => negative
  | .finite negative m _ => negative || m == 0

def toInt? : Binary64 → Option Int
  | .nan => none
  | .infinite _ => none
  | .finite negative m e =>
    let (p, q) := unscale 2 m 1 (-e)
    if p % q = 0 then some (if negative then -(p / q : Nat) else (p / q : Nat)) else none

/-- Whether two numbers compare equal: zeros of either sign do, and what is not a number does not. -/
def sameNumber : Binary64 → Binary64 → Bool
  | .nan, _ => false
  | _, .nan => false
  | .infinite s, .infinite t => s == t
  | .finite s m e, .finite t n f => (m == 0 && n == 0) || (s == t && m == n && e == f)
  | _, _ => false

theorem isPositive_eq_false_of_isNonPositive {x : Binary64} (h : x.isNonPositive = true) :
    x.isPositive = false := by
  cases x <;> simp_all [isNonPositive, isPositive]
  rintro rfl; simp_all

/-- Every number is positive, at most zero, or not a number. -/
theorem isPositive_or_isNonPositive (x : Binary64) :
    x.isPositive = true ∨ x.isNonPositive = true ∨ x = .nan := by
  cases x with
  | nan => simp
  | infinite s => cases s <;> simp [isPositive, isNonPositive]
  | finite s m e =>
    by_cases hm : m = 0 <;> cases s <;> simp [isPositive, isNonPositive, hm]

@[simp] theorem isPositive_nan : Binary64.nan.isPositive = false := rfl

@[simp] theorem isNonPositive_nan : Binary64.nan.isNonPositive = false := rfl

end Binary64
end Typeset
