import Typeset.Number.Binary64
import Typeset.Text.Blank
import Typeset.Text.Digit

/-!
Reading numbers from text. A numeral is a sign, digits with at most one point among them and a
power of ten, or a word for infinity or for what is not a number. `Binary64.read?` allows blanks
around it, digits of all scripts, and single underscores between digits.
-/

namespace Typeset.Numeral

open Text

def takeSign : List Char → Bool × List Char
  | '-' :: rest => (true, rest)
  | '+' :: rest => (false, rest)
  | rest => (false, rest)

def takeDigits (s : List Char) : List Nat × List Char :=
  ((s.takeWhile isDigit).filterMap asciiDigit?, s.dropWhile isDigit)

/-- The text without its underscores, if each of them stands between two digits. -/
def dropUnderscores? (s : List Char) : Option (List Char) :=
  go '\x00' s
where
  go (before : Char) : List Char → Option (List Char)
    | [] => if before = '_' then none else some []
    | '_' :: rest => if isDigit before then go '_' rest else none
    | c :: rest => if before = '_' ∧ ¬ isDigit c then none else (go c rest).map (c :: ·)

/-- The exponent at the end of a numeral: nothing, or `e` with a sign and digits. -/
def exponent? : List Char → Option Int
  | [] => some 0
  | c :: rest =>
    if c = 'e' ∨ c = 'E' then
      let (negative, rest) := takeSign rest
      let (ds, rest) := takeDigits rest
      if ds.isEmpty ∨ ¬ rest.isEmpty then none
      else some (if negative then -(ofDigits 10 ds : Nat) else (ofDigits 10 ds : Nat))
    else none

def magnitude? (negative : Bool) (s : List Char) : Option Binary64 :=
  let (whole, rest) := takeDigits s
  let (fraction, rest) := match rest with
    | '.' :: rest => takeDigits rest
    | rest => ([], rest)
  if whole.isEmpty ∧ fraction.isEmpty then none
  else (exponent? rest).map fun e =>
    .ofDecimal negative (ofDigits 10 (whole ++ fraction)) (e - fraction.length)

def asciiLower (c : Char) : Char := if 'A' ≤ c ∧ c ≤ 'Z' then Char.ofNat (c.toNat + 32) else c

def plain? (s : List Char) : Option Binary64 :=
  let (negative, rest) := takeSign s
  let word := String.ofList (rest.map asciiLower)
  if word = "inf" ∨ word = "infinity" then some (.infinite negative)
  else if word = "nan" then some .nan
  else magnitude? negative rest

/-- Blanks that may surround a numeral: those of ASCII, less its separators, and all others. -/
def isMargin (c : Char) : Bool := isBlank c && !(28 ≤ c.toNat && c.toNat ≤ 31)

def asciiDigits (s : List Char) : List Char :=
  s.map fun c => match digitValue? c with
    | some n => Char.ofNat (48 + n)
    | none => c

/-- The text without the blanks around it, with ASCII digits for those of other scripts. -/
def trimmed (s : List Char) : List Char :=
  dropEndWhile isMargin ((asciiDigits s).dropWhile isMargin)

/-- A numeral with blanks around it and underscores between digits. -/
def read? (s : List Char) : Option Binary64 := (dropUnderscores? (trimmed s)).bind plain?

@[simp] theorem takeDigits_nil : takeDigits [] = ([], []) := rfl

end Typeset.Numeral

namespace Typeset

def Binary64.read? (s : String) : Option Binary64 := Numeral.read? s.toList

end Typeset
