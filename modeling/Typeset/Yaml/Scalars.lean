import Typeset.Config.ReadError
import Typeset.Config.Value
import Typeset.Number.Arithmetic
import Typeset.Number.Radix
import Typeset.Text.Case
import Typeset.Yaml.Resolution

/-!
Values of scalars. The form of a scalar has been checked when its tag was chosen from it, but not when
the tag was written out, so every tag has texts that give no value.
-/

namespace Typeset.Yaml

open Text Config

def dropGaps (s : List Char) : List Char := s.filter (· ≠ '_')

def isNegative (s : List Char) : Bool := s.head? == some '-'

def sixties? (parts : List (List Char)) : Option Int :=
  (parts.mapM (Numeral.integer? 10)).map fun ns => ns.foldl (fun n d => n * 60 + d) 0

def intValue (text : List Char) : Except ReadError Int :=
  let s := dropGaps text
  let t := afterSign s
  let found : Option Int := match t with
    | '0' :: 'b' :: ds => Numeral.integer? 2 ds
    | '0' :: 'x' :: ds => Numeral.integer? 16 ds
    | '0' :: _ => Numeral.integer? 8 t
    | _ => if ':' ∈ t then sixties? (splitOn ':' t) else Numeral.integer? 10 t
  if t.isEmpty then .error .emptyInteger
  else match found with
    | some n => .ok (if isNegative s then -n else n)
    | none => .error .impossible

/-- The sum of numbers in base 60, the last of them being the ones; the powers have to be numbers too. -/
def sumSixties (parts : List Binary64) : Except ReadError Binary64 :=
  parts.reverse.zipIdx.foldlM (fun total p =>
    match Binary64.ofInt? (Nat.pow 60 p.2 : Nat) with
    | some power => .ok (total.add (p.1.mul power))
    | none => .error .tooLarge) .zero

/-- The text of a floating point number without underscores, in lower case. -/
def floatText (text : String) : List Char := Text.lowerFrom [] (dropGaps text.toList)

def isNanMark (text : String) : Bool := afterSign (floatText text) == ".nan".toList

def floatValue (text : String) : Except ReadError Binary64 := do
  let s := floatText text
  let t := afterSign s
  if s.isEmpty then throw .emptyInteger
  let x ←
    if t = ".inf".toList then pure (.infinite false)
    else if t = ".nan".toList then pure .nan
    else if ':' ∈ t then
      ((splitOn ':' t).mapM Numeral.read?).elim (.error .impossible) sumSixties
    else (Numeral.read? t).elim (.error .impossible) pure
  pure (if isNegative s then x.negate else x)

def stampValue (text : List Char) : Except ReadError Value :=
  match stamp? text with
  | none => .error .notATime
  | some t =>
    match t.time with
    | none => if t.date.isValid then .ok (.date t.date) else .error .impossible
    | some time =>
      let offsetFits := t.offset.all fun m => m.natAbs < 1440
      if t.date.isValid ∧ time.isValid ∧ offsetFits then
        .ok (.dateTime ⟨t.date, time, t.offset⟩)
      else .error .impossible

def sixBits? (c : Char) : Option Nat :=
  if 'A' ≤ c ∧ c ≤ 'Z' then some (c.toNat - 65)
  else if 'a' ≤ c ∧ c ≤ 'z' then some (c.toNat - 71)
  else if '0' ≤ c ∧ c ≤ '9' then some (c.toNat + 4)
  else if c = '+' then some 62
  else if c = '/' then some 63
  else none

/-- The bytes that groups of four characters stand for; other characters are skipped, and the text
ends at the padding of a group. -/
def groupBytes : (position left pads : Nat) → List Char → Option (List UInt8)
  | position, _, _, [] => if position = 0 then some [] else none
  | position, left, pads, c :: s =>
    if c = '=' then
      if 2 ≤ position ∧ 4 ≤ position + pads + 1 then some []
      else groupBytes position left (if 2 ≤ position then pads + 1 else pads) s
    else match sixBits? c with
      | none => groupBytes position left pads s
      | some n =>
        match position with
        | 0 => groupBytes 1 n 0 s
        | 1 => (groupBytes 2 (n % 16) 0 s).map (UInt8.ofNat (left * 4 + n / 16) :: ·)
        | 2 => (groupBytes 3 (n % 4) 0 s).map (UInt8.ofNat (left * 16 + n / 4) :: ·)
        | _ => (groupBytes 0 0 0 s).map (UInt8.ofNat (left * 64 + n) :: ·)

def binaryValue (text : List Char) : Except ReadError Value :=
  if text.all (·.toNat < 128) then
    match groupBytes 0 0 0 text with
    | some bs => .ok (.bytes bs)
    | none => .error .malformed
  else .error .malformed

def boolValue (text : String) : Except ReadError Value :=
  let w := lower text
  if w = "yes" ∨ w = "true" ∨ w = "on" then .ok (.bool true)
  else if w = "no" ∨ w = "false" ∨ w = "off" then .ok (.bool false)
  else .error .notABool

def scalarValue (tag : Tag) (text : String) : Except ReadError Value :=
  match tag with
  | .null => .ok .null
  | .bool => boolValue text
  | .int => (intValue text.toList).map .int
  | .float => (floatValue text).map .real
  | .binary => binaryValue text.toList
  | .timestamp => stampValue text.toList
  | .text => .ok (.text text)
  | _ => .error .malformed

end Typeset.Yaml
