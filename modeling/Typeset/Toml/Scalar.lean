import Typeset.Config.ReadError
import Typeset.Config.Value
import Typeset.Number.Radix

/-!
Numbers, days and times of TOML. Every reader answers with what stands at the front of a text and
with the rest, or with nothing if no such thing stands there.
-/

namespace Typeset.Toml

open Text Config

def digits? (n : Nat) (s : List Char) : Option (Nat × List Char) :=
  let ds := s.take n
  if ds.length = n ∧ ds.all isDigit then
    some (ofDigits 10 (ds.filterMap asciiDigit?), s.drop n)
  else none

def expect (c : Char) : List Char → Option (List Char)
  | d :: s => if c = d then some s else none
  | [] => none

def twoDigits? (limit : Nat) (s : List Char) : Option (Nat × List Char) :=
  (digits? 2 s).filter (·.1 ≤ limit)

/-- A fraction of a second, in microseconds; further digits are dropped. -/
def fraction (s : List Char) : Nat × List Char :=
  match s with
  | '.' :: rest =>
    let ds := (rest.takeWhile isDigit).filterMap asciiDigit?
    if ds.isEmpty then (0, s)
    else (ofDigits 10 ((ds ++ List.replicate 6 0).take 6), rest.dropWhile isDigit)
  | _ => (0, s)

def time? (s : List Char) : Option (TimeOfDay × List Char) := do
  let (hour, s) ← twoDigits? 23 s
  let (minute, s) ← twoDigits? 59 (← expect ':' s)
  let (second, s) ← twoDigits? 59 (← expect ':' s)
  let (microsecond, s) := fraction s
  some (⟨hour, minute, second, microsecond⟩, s)

def offset? (s : List Char) : Option (Int × List Char) :=
  match s with
  | 'Z' :: s => some (0, s)
  | 'z' :: s => some (0, s)
  | c :: s =>
    if c = '+' ∨ c = '-' then do
      let (hour, s) ← twoDigits? 23 s
      let (minute, s) ← twoDigits? 59 (← expect ':' s)
      let minutes : Int := hour * 60 + minute
      some (if c = '-' then -minutes else minutes, s)
    else none
  | [] => none

def date? (s : List Char) : Option (Date × List Char) := do
  let (year, s) ← digits? 4 s
  let (month, s) ← twoDigits? 12 (← expect '-' s)
  let (day, s) ← twoDigits? 31 (← expect '-' s)
  if month = 0 ∨ day = 0 then none else some (⟨year, month, day⟩, s)

def timeAfterDate? (s : List Char) : Option (TimeOfDay × List Char) :=
  match s with
  | c :: s => if c = 'T' ∨ c = 't' ∨ c = ' ' then time? s else none
  | [] => none

/-- A day, a time on a day, or a time of day; a day has to exist. -/
def moment? (s : List Char) : Option (Except ReadError (Value × List Char)) :=
  match date? s with
  | some (d, s) =>
    some <| if ¬ d.isValid then .error .malformed
    else match timeAfterDate? s with
      | none => .ok (.date d, s)
      | some (t, s) =>
        match offset? s with
        | some (m, s) => .ok (.dateTime ⟨d, t, some m⟩, s)
        | none => .ok (.dateTime ⟨d, t, none⟩, s)
  | none => (time? s).map fun (t, s) => .ok (.time t, s)

/-- Digits in groups with single underscores between the groups; a group has to follow each. -/
def groups (isMember : Char → Bool) : List Char → List Char × List Char
  | '_' :: c :: s =>
    if isMember c then
      let (more, rest) := groups isMember s
      ('_' :: c :: more, rest)
    else ([], '_' :: c :: s)
  | c :: s =>
    if isMember c then
      let (more, rest) := groups isMember s
      (c :: more, rest)
    else ([], c :: s)
  | [] => ([], [])

def grouped? (isMember : Char → Bool) (s : List Char) : Option (List Char × List Char) :=
  match s with
  | c :: _ => if isMember c then some (groups isMember s) else none
  | [] => none

def based? (b : Nat) (isMember : Char → Bool) (s : List Char) : Option (Value × List Char) :=
  (grouped? isMember s).map fun (ds, rest) =>
    (.int (ofDigits b (ds.filterMap hexDigit?) : Nat), rest)

def marked? (s : List Char) : Option (Value × List Char) :=
  match s with
  | '0' :: 'x' :: s => based? 16 isHexDigit s
  | '0' :: 'b' :: s => based? 2 (fun c => c = '0' ∨ c = '1') s
  | '0' :: 'o' :: s => based? 8 (fun c => '0' ≤ c ∧ c ≤ '7') s
  | _ => none

def sign (s : List Char) : List Char × List Char :=
  match s with
  | '-' :: s => (['-'], s)
  | '+' :: s => (['+'], s)
  | s => ([], s)

def fractionPart (s : List Char) : List Char × List Char :=
  match s with
  | '.' :: rest => match grouped? isDigit rest with
    | some (ds, rest) => ('.' :: ds, rest)
    | none => ([], s)
  | _ => ([], s)

def exponentPart (s : List Char) : List Char × List Char :=
  match s with
  | c :: rest =>
    if c = 'e' ∨ c = 'E' then
      let (sg, rest) := sign rest
      match grouped? isDigit rest with
      | some (ds, rest) => (c :: sg ++ ds, rest)
      | none => ([], s)
    else ([], s)
  | [] => ([], [])

def decimalInt (negative : Bool) (ds : List Char) : Except ReadError Value :=
  let ns := ds.filterMap asciiDigit?
  if digitLimit < ns.length then .error .numeralTooLong
  else
    let n : Int := (ofDigits 10 ns : Nat)
    .ok (.int (if negative then -n else n))

/-- A decimal number; with a fraction or an exponent it is floating point. -/
def decimal? (s : List Char) : Option (Except ReadError (Value × List Char)) :=
  let (sg, rest) := sign s
  let whole := match rest with
    | '0' :: rest => some (['0'], rest)
    | _ => grouped? isDigit rest
  whole.map fun (ds, rest) =>
    let (fr, rest) := fractionPart rest
    let (ex, rest) := exponentPart rest
    if fr.isEmpty ∧ ex.isEmpty then (decimalInt (sg == ['-']) ds).map fun v => (v, rest)
    else match Numeral.read? (sg ++ ds ++ fr ++ ex) with
      | some x => .ok (.real x, rest)
      | none => .error .malformed

def special? (s : List Char) : Option (Value × List Char) :=
  let (sg, rest) := sign s
  match rest with
  | 'i' :: 'n' :: 'f' :: rest => some (.real (.infinite (sg == ['-'])), rest)
  | 'n' :: 'a' :: 'n' :: rest => some (.real .nan, rest)
  | _ => none

def scalar (s : List Char) : Except ReadError (Value × List Char) :=
  match moment? s with
  | some r => r
  | none => match marked? s with
    | some r => .ok r
    | none => match decimal? s with
      | some r => r
      | none => match special? s with
        | some r => .ok r
        | none => .error .malformed

end Typeset.Toml
