import Typeset.Number.Shortest
import Typeset.Shell.Directive
import Typeset.Shell.Numeral

/-!
Real numbers of formats: how words write them, and how directives do. Every digit that is written is
exact; a half goes to the even digit.
-/

namespace Typeset.Shell.Real

open Text Utf8

structure Found where
  value : Binary64
  outOfRange : Bool
  rest : List Char

/-- Whether rounding a number that is not zero has left the usual range. -/
def isOutOfRange : Binary64 → Bool
  | .nan => false
  | .infinite _ => true
  | .finite _ m _ => m < Nat.pow 2 52

/-- Digits of a base with at most one point among them: the number of all digits, how many stand behind
the point, how many there are, and the rest. -/
def mantissa (base : Nat) (s : List Char) : Nat × Nat × Nat × List Char :=
  let isDigit (c : Char) : Bool := (hexDigit? c).any (· < base)
  let whole := s.takeWhile isDigit
  let (fraction, rest) := match s.drop whole.length with
    | '.' :: rest => (rest.takeWhile isDigit, rest.dropWhile isDigit)
    | rest => ([], rest)
  let digits := whole ++ fraction
  if digits.isEmpty then (0, 0, 0, s)
  else (ofDigits base (digits.filterMap hexDigit?), fraction.length, digits.length, rest)

def exponent (letter : Char) (s : List Char) : Int × List Char :=
  match s with
  | c :: rest =>
    if c.toLower ≠ letter then (0, s)
    else
      let (negative, rest) := Numeral.sign rest
      let digits := rest.takeWhile isDigit
      if digits.isEmpty then (0, s)
      else
        -- more digits than these make no difference any more
        let n := min (ofDigits 10 (digits.filterMap asciiDigit?)) 100000
        (if negative then -(n : Int) else n, rest.drop digits.length)
  | [] => (0, [])

def decimal? (negative : Bool) (s : List Char) : Option Found :=
  let (n, places, length, rest) := mantissa 10 s
  if length = 0 then none
  else
    let (e, rest) := exponent 'e' rest
    let x := Binary64.ofDecimal negative n (e - places)
    some ⟨x, n ≠ 0 && isOutOfRange x, rest⟩

def hexadecimal? (negative : Bool) (s : List Char) : Option Found :=
  let (n, places, length, rest) := mantissa 16 s
  if length = 0 then none
  else
    let (e, rest) := exponent 'p' rest
    let (p, q) := unscale 2 n 1 (4 * places - e)
    let x := Binary64.ofRatio negative p q
    some ⟨x, n ≠ 0 && isOutOfRange x, rest⟩

def dropWord? (w : String) (s : List Char) : Option (List Char) :=
  if (s.take w.length).map Char.toLower = w.toList then some (s.drop w.length) else none

def read? (s : List Char) : Option Found :=
  let (negative, body) := Numeral.sign (s.dropWhile Numeral.isSpace)
  let special := (dropWord? "infinity" body).orElse fun _ => dropWord? "inf" body
  match special, dropWord? "nan" body with
  | some rest, _ => some ⟨.infinite negative, false, rest⟩
  | none, some rest => some ⟨.nan, false, rest⟩
  | none, none =>
    match body with
    | '0' :: x :: rest =>
      if x = 'x' ∨ x = 'X' then
        (hexadecimal? negative rest).orElse fun _ => decimal? negative body
      else decimal? negative body
    | _ => decimal? negative body

/-- Digits with a point so many places from their end; with no places the point is left out, unless it is
wanted. -/
def pointed (wanted : Bool) (places : Nat) (digits : List Char) : List Char :=
  let digits := List.replicate (places + 1 - digits.length) '0' ++ digits
  let whole := digits.take (digits.length - places)
  let fraction := digits.drop (digits.length - places)
  whole ++ (if wanted || places != 0 then '.' :: fraction else [])

def fixed (wanted : Bool) (places m : Nat) (e : Int) : List Char :=
  let (p, q) := unscale 2 (m * Nat.pow 10 places) 1 (-e)
  pointed wanted places (Nat.toDigits 10 (roundHalfEven p q))

def leading (n m : Nat) (e : Int) : List Char × Int :=
  if m = 0 then (List.replicate n '0', 0)
  else
    let d := Binary64.rounded n m e
    (d.digits ++ List.replicate (n - d.digits.length) '0', d.point - 1)

def power (letter : Char) (least : Nat) (x : Int) : List Char :=
  let digits := Nat.toDigits 10 x.natAbs
  letter :: (if x < 0 then '-' else '+') :: List.replicate (least - digits.length) '0' ++ digits

def scientific (wanted : Bool) (places m : Nat) (e : Int) : List Char :=
  let (digits, x) := leading (places + 1) m e
  pointed wanted places digits ++ power 'e' 2 x

/-- A text of digits without the zeros behind the point, and without a point at its end. -/
def withoutZeros (s : List Char) : List Char :=
  if '.' ∈ s then
    let kept := (s.reverse.dropWhile (· = '0')).reverse
    if kept.getLast? = some '.' then kept.dropLast else kept
  else s

/-- A number with so many digits, written in the shorter of the two ways. -/
def general (wanted : Bool) (digits m : Nat) (e : Int) : List Char :=
  let n := max digits 1
  let x := (leading n m e).2
  let trim (s : List Char) : List Char := if wanted then s else withoutZeros s
  if -4 ≤ x ∧ x < n then trim (fixed wanted ((n : Int) - 1 - x).toNat m e)
  else
    let (ds, x) := leading n m e
    trim (pointed wanted (n - 1) ds) ++ power 'e' 2 x

def binary (wanted : Bool) (places : Option Nat) (m : Nat) (e : Int) : List Char :=
  let x : Int := if m = 0 then 0 else if m < Nat.pow 2 52 then -1022 else e + 52
  let shown := match places with
    | some p => if p < 13 then roundHalfEven m (Nat.pow 16 (13 - p)) else m * Nat.pow 16 (p - 13)
    | none => m
  let digits := pointed wanted (places.getD 13) (Nat.toDigits 16 shown)
  (if places.isNone ∧ !wanted then withoutZeros digits else digits) ++ power 'p' 1 x

def write (d : Directive) (x : Binary64) : Bytes :=
  let cased (s : List Char) : List Char := if d.letter.isUpper then s.map Char.toUpper else s
  match x with
  | .nan => d.number false (d.sign false) (cased ['n', 'a', 'n'])
  | .infinite negative => d.number false (d.sign negative) (cased ['i', 'n', 'f'])
  | .finite negative m e =>
    let wanted := d.alternate
    let places := d.precision.getD 6
    let sign := d.sign negative
    match d.letter.toLower with
    | 'f' => d.number true sign (fixed wanted places m e)
    | 'e' => d.number true sign (cased (scientific wanted places m e))
    | 'g' => d.number true sign (cased (general wanted places m e))
    | _ => d.number true (sign ++ cased ['0', 'x']) (cased (binary wanted d.precision m e))

end Typeset.Shell.Real
