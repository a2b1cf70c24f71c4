import Typeset.Number.Numeral

/-!
Integers as they are written in a base. Blanks may surround the numeral, and a sign and the mark of its
base may stand in front. Decimal numerals are limited in length, in the other bases here they are not.
-/

namespace Typeset

/-- The most decimal digits of an integer that is read or written. -/
def digitLimit : Nat := 4300

def fitsDigitLimit (n : Int) : Bool := n.natAbs < Nat.pow 10 digitLimit

namespace Numeral

open Text

def baseMark? (b : Nat) : Option Char := [(2, 'b'), (8, 'o'), (16, 'x')].lookup b

/-- The text behind the mark of a base, if the mark stands in front. -/
def dropMark (b : Nat) : List Char → List Char
  | '0' :: c :: rest => if baseMark? b = some (asciiLower c) then rest else '0' :: c :: rest
  | s => s

def baseDigit? (b : Nat) (c : Char) : Option Nat := (hexDigit? c).filter (· < b)

def integer? (b : Nat) (s : List Char) : Option Int :=
  let (negative, rest) := takeSign (trimmed s)
  let ds := dropMark b rest
  let ns := ds.filterMap (baseDigit? b)
  if ds.isEmpty ∨ ns.length ≠ ds.length ∨ (b = 10 ∧ digitLimit < ds.length) then none
  else
    let n : Int := (ofDigits b ns : Nat)
    some (if negative then -n else n)

end Numeral
end Typeset
