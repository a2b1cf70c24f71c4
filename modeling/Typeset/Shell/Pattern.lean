/-!
Patterns of the shell. A star stands for any text, a question mark for one character, and brackets for one
character of a set; a quoted character stands for itself.
-/

namespace Typeset.Shell.Pattern

/-- A character of a pattern, and whether it can be special. -/
abbrev Symbol := Char × Bool

def isOf (c : Char) (name : String) : Option Bool :=
  let graphic := '!' ≤ c && c ≤ '~'
  match name with
  | "alnum" => some c.isAlphanum
  | "alpha" => some c.isAlpha
  | "blank" => some (c = ' ' || c = '\t')
  | "cntrl" => some (c < ' ' || c = '\x7f')
  | "digit" => some c.isDigit
  | "graph" => some graphic
  | "lower" => some c.isLower
  | "print" => some (graphic || c = ' ')
  | "punct" => some (graphic && !c.isAlphanum)
  | "space" => some (c = ' ' || ('\t' ≤ c && c ≤ '\r'))
  | "upper" => some c.isUpper
  | "xdigit" => some (c.isDigit || ('a' ≤ c && c ≤ 'f') || ('A' ≤ c && c ≤ 'F'))
  | _ => none

def className? : List Symbol → Option (String × List Symbol)
  | ('[', true) :: (':', _) :: rest =>
    let name := rest.takeWhile fun s => s.1.isAlpha
    match rest.drop name.length with
    | (':', _) :: (']', _) :: behind => some (String.ofList (name.map (·.1)), behind)
    | _ => none
  | _ => none

/-- Whether a character is in the set that is written in front, up to its bracket, and the pattern behind
that. A set without a bracket at its end is none. -/
def inSet? (c : Char) (first found : Bool) : (fuel : Nat) → List Symbol → Option (Bool × List Symbol)
  | 0, _ => none
  | _, [] => none
  | fuel + 1, (a, active) :: rest =>
    if a = ']' ∧ active ∧ !first then some (found, rest)
    else match (className? ((a, active) :: rest)).bind fun n => (isOf c n.1).map (·, n.2) with
      | some (isIn, behind) => inSet? c false (found || isIn) fuel behind
      | none =>
        match rest with
        | ('-', true) :: (b, last) :: behind =>
          if b = ']' ∧ last then inSet? c false (found || a = c) fuel rest
          else inSet? c false (found || (a ≤ c && c ≤ b)) fuel behind
        | _ => inSet? c false (found || a = c) fuel rest

/-- Whether a character fits the bracket whose opening has been taken, and the pattern behind it. -/
def bracket? (c : Char) (p : List Symbol) : Option (Bool × List Symbol) :=
  match p with
  | ('!', true) :: rest => (inSet? c true false (rest.length + 1) rest).map fun r => (!r.1, r.2)
  | _ => inSet? c true false (p.length + 1) p

def fits : (fuel : Nat) → List Symbol → List Char → Bool
  | 0, _, _ => false
  | _, [], s => s.isEmpty
  | fuel + 1, (c, active) :: p, s =>
    if active && c = '*' then
      fits fuel p s || match s with
        | [] => false
        | _ :: rest => fits fuel ((c, active) :: p) rest
    else match s with
      | [] => false
      | d :: rest =>
        if active && c = '?' then fits fuel p rest
        else match if active && c = '[' then bracket? d p else none with
          | some (isIn, behind) => isIn && fits fuel behind rest
          | none => c = d && fits fuel p rest

def fitsAll (p : List Symbol) (s : List Char) : Bool := fits (p.length + s.length + 1) p s

def isActive (p : List Symbol) : Bool := p.any fun c => c.2 && c.1 ∈ ['*', '?', '[']

/-- What is left of a text without the part in front that a pattern fits; the shortest such part,
or the longest. -/
def dropStart (longest : Bool) (p : List Symbol) (s : List Char) : List Char :=
  let lengths := List.range (s.length + 1)
  let order := if longest then lengths.reverse else lengths
  match order.find? fun n => fitsAll p (s.take n) with
  | some n => s.drop n
  | none => s

def dropEnd (longest : Bool) (p : List Symbol) (s : List Char) : List Char :=
  let lengths := List.range (s.length + 1)
  let order := if longest then lengths else lengths.reverse
  match order.find? fun n => fitsAll p (s.drop n) with
  | some n => s.take n
  | none => s

end Typeset.Shell.Pattern
