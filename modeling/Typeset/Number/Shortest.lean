import Typeset.Number.Binary64

/-!
Decimal text of floating point numbers. `shortest` finds the fewest digits that read back as the
number: it tries the two neighbours on the grids of 1, 2, … 17 digits and takes the nearer one of
those that round to it. `toText` writes these digits positionally from `1e-4` to below `1e16`.
`general` rounds to six digits and drops the zeros at the end.
-/

namespace Typeset.Binary64

structure Decimal where
  digits : List Char
  point : Int
  deriving DecidableEq

def Decimal.ofNat (n : Nat) (t : Int) : Decimal :=
  let ds := Nat.toDigits 10 n
  ⟨(ds.reverse.dropWhile (· == '0')).reverse, t + ds.length⟩

def magnitude (p q : Nat) : Int :=
  if q ≤ p then (Nat.toDigits 10 (p / q)).length
  else
    let d := (Nat.toDigits 10 (q / p)).length
    if q ≤ p * Nat.pow 10 (d - 1) then 2 - (d : Int) else 1 - (d : Int)

/-- Four times the significand of the reals that round to `m * 2 ^ e`: the least, the number itself
and the greatest. -/
def neighbourhood (m : Nat) (e : Int) : Nat × Nat × Nat :=
  (if m = Nat.pow 2 52 ∧ minExponent < e then 4 * m - 1 else 4 * m - 2, 4 * m, 4 * m + 2)

def withDigits? (m : Nat) (e : Int) (n : Nat) : Option Decimal :=
  let (low, value, high) := neighbourhood m e
  let (p, q) := unscale 2 value 1 (2 - e)
  let t := magnitude p q - n
  let (a, b) := unscale 10 p q t
  let c := a / b
  -- `x` stands for the decimal `x * 10 ^ t`
  let within (x : Nat) : Bool :=
    let y := x * b * value
    if m % 2 = 0 then a * low ≤ y && y ≤ a * high else a * low < y && y < a * high
  match within c, within (c + 1) with
  | true, true =>
    if 2 * a < (2 * c + 1) * b then some (.ofNat c t)
    else if (2 * c + 1) * b < 2 * a then some (.ofNat (c + 1) t)
    else some (.ofNat (if c % 2 = 0 then c else c + 1) t)
  | true, false => some (.ofNat c t)
  | false, true => some (.ofNat (c + 1) t)
  | false, false => none

def shortest (m : Nat) (e : Int) : Decimal :=
  ((List.range 17).findSome? fun n => withDigits? m e (n + 1)).getD (.ofNat m 0)

/-- `m * 2 ^ e` rounded to `n` digits; a half goes to the even digit. -/
def rounded (n m : Nat) (e : Int) : Decimal :=
  let (p, q) := unscale 2 m 1 (-e)
  let t := magnitude p q - n
  let (a, b) := unscale 10 p q t
  .ofNat (roundHalfEven a b) t

/-- Digits with their decimal point among them; an integer ends in `whole`. -/
def positional (d : Decimal) (whole : String) : String :=
  let n : Int := d.digits.length
  if d.point ≤ 0 then
    "0." ++ String.ofList (List.replicate (-d.point).toNat '0' ++ d.digits)
  else if n ≤ d.point then
    String.ofList (d.digits ++ List.replicate (d.point - n).toNat '0') ++ whole
  else
    String.ofList (d.digits.take d.point.toNat) ++ "." ++ String.ofList (d.digits.drop d.point.toNat)

/-- Digits with one of them before the point, and a power of ten. -/
def exponential (d : Decimal) : String :=
  let x := d.point - 1
  let mantissa := match d.digits with
    | [] => "0"
    | [c] => String.singleton c
    | c :: rest => String.singleton c ++ "." ++ String.ofList rest
  let digits := Nat.toDigits 10 x.natAbs
  mantissa ++ "e" ++ (if x < 0 then "-" else "+") ++
    String.ofList (List.replicate (2 - digits.length) '0' ++ digits)

/-- The sign of a number in front of the text of its magnitude. -/
def signed (negative : Bool) (s : String) : String := if negative then "-" ++ s else s

def toText : Binary64 → String
  | .nan => "nan"
  | .infinite negative => signed negative "inf"
  | .finite negative m e =>
    signed negative <|
      if m = 0 then "0.0"
      else
        let d := shortest m e
        if -4 < d.point ∧ d.point ≤ 16 then positional d ".0" else exponential d

def general : Binary64 → String
  | .nan => "nan"
  | .infinite negative => signed negative "inf"
  | .finite negative m e =>
    signed negative <|
      if m = 0 then "0"
      else
        let d := rounded 6 m e
        if -4 < d.point ∧ d.point ≤ 6 then positional d "" else exponential d

end Typeset.Binary64
