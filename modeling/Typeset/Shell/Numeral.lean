import Typeset.Text.Digit

/-!
Numerals of the shell: decimal ones, octal ones behind a zero, hexadecimal ones behind `0x`, perhaps
with a sign. A numeral stands for an integer of 64 bits, with a sign or without; one that does not fit
stands for the nearest integer that does.
-/

namespace Typeset.Shell

structure Numeral where
  negative : Bool
  magnitude : Nat
  deriving DecidableEq

namespace Numeral

def isSpace (c : Char) : Bool := c = ' ' || ('\t' ≤ c && c ≤ '\r')

/-- The number that the digits in front write in a base, and the rest. -/
def inBase (base : Nat) (s : List Char) : Nat × List Char :=
  let isDigit (c : Char) : Bool := (Text.hexDigit? c).any (· < base)
  (Text.ofDigits base ((s.takeWhile isDigit).filterMap Text.hexDigit?), s.dropWhile isDigit)

/-- The number that the digits in front write in the base that their beginning tells, and the rest. -/
def unsigned : List Char → Nat × List Char
  | '0' :: x :: c :: rest =>
    if (x = 'x' ∨ x = 'X') ∧ Text.isHexDigit c then inBase 16 (c :: rest) else inBase 8 (x :: c :: rest)
  | '0' :: rest => inBase 8 rest
  | s => inBase 10 s

def sign : List Char → Bool × List Char
  | '-' :: rest => (true, rest)
  | '+' :: rest => (false, rest)
  | s => (false, s)

/-- The numeral in front, read from its first digit on by `digits`, and the rest. -/
def readBy (digits : List Char → Nat × List Char) (s : List Char) : Option (Numeral × List Char) :=
  let (negative, body) := sign (s.dropWhile isSpace)
  if body.head?.any Text.isDigit then some (⟨negative, (digits body).1⟩, (digits body).2) else none

/-- The numeral in front, in the base that its beginning tells, and the rest. -/
def read? (s : List Char) : Option (Numeral × List Char) := readBy unsigned s

def readDecimal? (s : List Char) : Option (Numeral × List Char) := readBy (inBase 10) s

def greatest (negative : Bool) : Nat := UInt64.size / 2 - if negative then 0 else 1

/-- Whether the numeral stands for an integer with a sign exactly. -/
def fitsSigned (n : Numeral) : Bool := n.magnitude ≤ greatest n.negative

def toSigned (n : Numeral) : Int :=
  let m := min n.magnitude (greatest n.negative)
  if n.negative then -(m : Int) else m

/-- Whether the numeral stands for an integer without a sign; one below zero is taken up to multiples
of `2 ^ 64`. -/
def fitsUnsigned (n : Numeral) : Bool := n.magnitude < UInt64.size

def toUnsigned (n : Numeral) : Nat :=
  if !n.fitsUnsigned then UInt64.size - 1
  else if n.negative then (UInt64.size - n.magnitude) % UInt64.size
  else n.magnitude

/-- The integer with a sign, where nothing but blanks follows the numeral and it fits. -/
def whole? : Option (Numeral × List Char) → Option Int
  | some (n, rest) => if n.fitsSigned && rest.all isSpace then some n.toSigned else none
  | none => none

@[simp] theorem read?_empty : read? [] = none := rfl

theorem toUnsigned_lt (n : Numeral) : n.toUnsigned < UInt64.size := by
  have h : 0 < UInt64.size := by decide
  unfold toUnsigned
  split
  · omega
  · rename_i fits
    split
    · exact Nat.mod_lt _ h
    · simpa [fitsUnsigned] using fits

end Numeral
end Typeset.Shell
