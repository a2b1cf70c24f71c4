import Typeset.Config.ReadError
import Typeset.Config.Value
import Typeset.Number.Radix

/-!
Reading JSON, with words for infinity and for what is not a number. Of a repeated key the last value
counts. Two escapes that write the halves of one character are joined; documents with half a character
alone are outside of what is modelled.
-/

namespace Typeset.Json

open Text Config

def isGap (c : Char) : Bool := c = ' ' || c = '\t' || c = '\n' || c = '\r'

def skip (s : List Char) : List Char := s.dropWhile isGap

def unit? (s : List Char) : Option (Nat × List Char) :=
  let ds := s.take 4
  if ds.length = 4 ∧ ds.all isHexDigit then
    some (ofDigits 16 (ds.filterMap hexDigit?), s.drop 4)
  else none

/-- Whether a code is the first half of a character. -/
def isHigh (n : Nat) : Bool := 0xd800 ≤ n && n < 0xdc00

/-- Whether a code is the second half of a character. -/
def isLow (n : Nat) : Bool := 0xdc00 ≤ n && n < 0xe000

/-- The character of one code. A text holds whole characters only, so half of one that stands alone, which
the format allows, is replaced. -/
def charOf (n : Nat) : Char := if isHigh n ∨ isLow n then '\ufffd' else Char.ofNat n

/-- The character of an escape by code, after its mark. -/
def coded? (s : List Char) : Option (Char × List Char) := do
  let (n, s) ← unit? s
  let second := match s with
    | '\\' :: 'u' :: rest => unit? rest
    | _ => none
  match second with
  | some (m, rest) =>
    if isHigh n ∧ isLow m then
      some (Char.ofNat (0x10000 + (n - 0xd800) * 0x400 + (m - 0xdc00)), rest)
    else some (charOf n, s)
  | none => some (charOf n, s)

/-- The character of a backslash and what stands after it. -/
def escape? (s : List Char) : Option (Char × List Char) :=
  match s with
  | '"' :: s => some ('"', s)
  | '\\' :: s => some ('\\', s)
  | '/' :: s => some ('/', s)
  | 'b' :: s => some ('\x08', s)
  | 'f' :: s => some ('\x0c', s)
  | 'n' :: s => some ('\n', s)
  | 'r' :: s => some ('\r', s)
  | 't' :: s => some ('\t', s)
  | 'u' :: s => coded? s
  | _ => none

def quoted? : (fuel : Nat) → List Char → Option (List Char × List Char)
  | 0, _ => none
  | _ + 1, [] => none
  | _ + 1, '"' :: s => some ([], s)
  | fuel + 1, '\\' :: s =>
    match escape? s with
    | none => none
    | some (c, s) => (quoted? fuel s).map fun (t, s) => (c :: t, s)
  | fuel + 1, c :: s =>
    if c.toNat < 32 then none else (quoted? fuel s).map fun (t, s) => (c :: t, s)

def text (s : List Char) : Except ReadError (String × List Char) :=
  match quoted? (s.length + 1) s with
  | some (t, s) => .ok (String.ofList t, s)
  | none => .error .malformed

def fraction (s : List Char) : List Char × List Char :=
  match s with
  | '.' :: rest =>
    let ds := rest.takeWhile isDigit
    if ds.isEmpty then ([], s) else ('.' :: ds, rest.dropWhile isDigit)
  | _ => ([], s)

def exponent (s : List Char) : List Char × List Char :=
  match s with
  | c :: rest =>
    if c = 'e' ∨ c = 'E' then
      let (sg, rest) := match rest with
        | '-' :: rest => (['-'], rest)
        | '+' :: rest => (['+'], rest)
        | rest => ([], rest)
      let ds := rest.takeWhile isDigit
      if ds.isEmpty then ([], s) else (c :: sg ++ ds, rest.dropWhile isDigit)
    else ([], s)
  | [] => ([], [])

def number (s : List Char) : Except ReadError (Value × List Char) :=
  let (negative, rest) := match s with
    | '-' :: rest => (true, rest)
    | rest => (false, rest)
  let (whole, rest) := match rest with
    | '0' :: rest => (['0'], rest)
    | rest => (rest.takeWhile isDigit, rest.dropWhile isDigit)
  if whole.isEmpty then .error .malformed
  else
    let (fr, rest) := fraction rest
    let (ex, rest) := exponent rest
    if fr.isEmpty ∧ ex.isEmpty then
      if digitLimit < whole.length then .error .numeralTooLong
      else
        let n : Int := (ofDigits 10 (whole.filterMap asciiDigit?) : Nat)
        .ok (.int (if negative then -n else n), rest)
    else match Numeral.read? ((if negative then ['-'] else []) ++ whole ++ fr ++ ex) with
      | some x => .ok (.real x, rest)
      | none => .error .malformed

def word? (s : List Char) : Option (Value × List Char) :=
  match s with
  | 'n' :: 'u' :: 'l' :: 'l' :: s => some (.null, s)
  | 't' :: 'r' :: 'u' :: 'e' :: s => some (.bool true, s)
  | 'f' :: 'a' :: 'l' :: 's' :: 'e' :: s => some (.bool false, s)
  | 'N' :: 'a' :: 'N' :: s => some (.real .nan, s)
  | 'I' :: 'n' :: 'f' :: 'i' :: 'n' :: 'i' :: 't' :: 'y' :: s => some (.real (.infinite false), s)
  | '-' :: 'I' :: 'n' :: 'f' :: 'i' :: 'n' :: 'i' :: 't' :: 'y' :: s =>
    some (.real (.infinite true), s)
  | _ => none

mutual

/-- A value that is read in `room` steps inside one another; a collection takes one. -/
def value : (fuel room : Nat) → List Char → Except ReadError (Value × List Char)
  | 0, _, _ => .error .malformed
  | fuel + 1, room, s =>
    match s with
    | '"' :: s => do let (t, s) ← text s; pure (.text t, s)
    | '[' :: s =>
      if room = 0 then .error .tooDeep
      else match skip s with
        | ']' :: s => pure (.list [], s)
        | s => do let (vs, s) ← elements fuel (room - 1) s; pure (.list vs, s)
    | '\x7b' :: s =>
      if room = 0 then .error .tooDeep
      else match skip s with
        | '\x7d' :: s => pure (.map [], s)
        | s => do let (ps, s) ← members fuel (room - 1) s; pure (.map (Mapping.ofPairs ps), s)
    | s => match word? s with
      | some r => .ok r
      | none => number s

def elements : (fuel room : Nat) → List Char → Except ReadError (List Value × List Char)
  | 0, _, _ => .error .malformed
  | fuel + 1, room, s => do
    let (v, s) ← value fuel room s
    match skip s with
    | ']' :: s => pure ([v], s)
    | ',' :: s => do let (vs, s) ← elements fuel room (skip s); pure (v :: vs, s)
    | _ => throw .malformed

/-- The keys and values of a mapping up to its end. -/
def members : (fuel room : Nat) → List Char → Except ReadError (List (Value × Value) × List Char)
  | 0, _, _ => .error .malformed
  | fuel + 1, room, s =>
    match s with
    | '"' :: s => do
      let (k, s) ← text s
      match skip s with
      | ':' :: s => do
        let (v, s) ← value fuel room (skip s)
        match skip s with
        | '\x7d' :: s => pure ([(.text k, v)], s)
        | ',' :: s => do let (ps, s) ← members fuel room (skip s); pure ((.text k, v) :: ps, s)
        | _ => throw .malformed
      | _ => throw .malformed
    | _ => .error .malformed

end

def read (s : String) : Except ReadError Value := do
  let (v, rest) ← value (2 * s.length + 2) nestingRoom (skip s.toList)
  if (skip rest).isEmpty then pure v else throw .malformed

@[simp] theorem skip_nil : skip [] = [] := rfl

end Typeset.Json
