import Typeset.Shell.Octets

/-!
Directives of formats: what stands in a format behind a percent sign. A directive has flags, a width, a
precision and a letter; words may be due for its width and its precision.
-/

namespace Typeset.Shell

open Text.Utf8

inductive Measure
  | given (n : Nat)
  | byWord
  deriving DecidableEq

structure Directive where
  left : Bool
  zero : Bool
  plus : Bool
  blank : Bool
  alternate : Bool
  width : Nat
  precision : Option Nat
  letter : Char

/-- A directive as it is written. Words may still be due for its width and its precision. -/
structure WrittenDirective where
  directive : Directive
  width : Measure
  precision : Option Measure

inductive FormatMistake
  | noLetter
  | unknown (directive : String)
  deriving DecidableEq

def FormatMistake.message : FormatMistake → String
  | .noLetter => "missing format character"
  | .unknown directive => directive ++ ": invalid directive"

namespace Measure

def read : List Char → Measure × List Char
  | '*' :: rest => (.byWord, rest)
  | s =>
    let ds := s.takeWhile Char.isDigit
    (.given ((String.ofList ds).toNat?.getD 0), s.drop ds.length)

end Measure

namespace Directive

def isSigned (d : Directive) : Bool := d.letter = 'd' || d.letter = 'i'

def isReal (d : Directive) : Bool := d.letter ∈ ['a', 'A', 'e', 'E', 'f', 'F', 'g', 'G']

def letters : List Char :=
  ['d', 'i', 'o', 'u', 'x', 'X', 'c', 's', 'b', 'a', 'A', 'e', 'E', 'f', 'F', 'g', 'G']

def read (s : List Char) : Except FormatMistake (WrittenDirective × List Char) :=
  let flags := s.takeWhile fun c => c ∈ ['-', '0', '+', ' ', '#']
  let (width, rest) := Measure.read (s.drop flags.length)
  let (precision, rest) := match rest with
    | '.' :: rest => (some (Measure.read rest).1, (Measure.read rest).2)
    | rest => ((none : Option Measure), rest)
  match rest with
  | [] => .error .noLetter
  | c :: rest =>
    if c ∉ letters then
      .error (.unknown (String.ofList ('%' :: s.take (s.length - rest.length))))
    else
      let d : Directive := ⟨'-' ∈ flags, '0' ∈ flags, '+' ∈ flags, ' ' ∈ flags, '#' ∈ flags, 0,
        none, c⟩
      .ok (⟨d, width, precision⟩, rest)

def pad (d : Directive) (bs : Bytes) : Bytes :=
  let gap := List.replicate (d.width - bs.length) (32 : UInt8)
  if d.left then bs ++ gap else gap ++ bs

def text (d : Directive) (bs : Bytes) : Bytes :=
  d.pad (match d.precision with
    | some n => bs.take n
    | none => bs)

/-- Fills a number up to the width of a directive, where it is asked for with zeros behind the sign. -/
def number (d : Directive) (zeros : Bool) (sign digits : List Char) : Bytes :=
  if d.zero && !d.left && zeros then
    Octets.toBytes (sign ++ List.replicate (d.width - sign.length - digits.length) '0' ++ digits)
  else d.pad (Octets.toBytes (sign ++ digits))

def sign (d : Directive) (negative : Bool) : List Char :=
  if negative then ['-'] else if d.plus then ['+'] else if d.blank then [' '] else []

def integer (d : Directive) (n : Int) : Bytes :=
  let base := if d.letter = 'o' then 8 else if d.letter = 'x' ∨ d.letter = 'X' then 16 else 10
  let digits := Nat.toDigits base n.natAbs
  let digits := if d.letter = 'X' then digits.map Char.toUpper else digits
  let digits := match d.precision with
    | some p =>
      if p = 0 ∧ n = 0 then [] else List.replicate (p - digits.length) '0' ++ digits
    | none => digits
  let sign := if d.isSigned then d.sign (n < 0)
    else if d.alternate ∧ n ≠ 0 ∧ d.letter = 'x' then ['0', 'x']
    else if d.alternate ∧ n ≠ 0 ∧ d.letter = 'X' then ['0', 'X']
    else if d.alternate ∧ d.letter = 'o' ∧ digits.head? ≠ some '0' then ['0'] else []
  d.number d.precision.isNone sign digits

theorem length_pad (d : Directive) (bs : Bytes) : (d.pad bs).length = max d.width bs.length := by
  simp only [pad]
  split <;> simp <;> omega

end Directive
end Typeset.Shell
