import Typeset.Text.Digit

/-!
Quoted text of TOML: on one line or on several, with escapes or without.
-/

namespace Typeset.Toml

open Text

def isSpace (c : Char) : Bool := c = ' ' || c = '\t'

def isGap (c : Char) : Bool := isSpace c || c = '\n'

/-- Control characters that no text may hold; on one line, that includes the line end. -/
def isIllegal (c : Char) : Bool := (c.toNat < 32 || c.toNat = 127) && c ≠ '\t'

def hexChar? (n : Nat) (s : List Char) : Option (Char × List Char) :=
  let ds := s.take n
  let code := ofDigits 16 (ds.filterMap hexDigit?)
  if ds.length = n ∧ ds.all isHexDigit ∧ code.isValidChar then some (Char.ofNat code, s.drop n)
  else none

/-- What stands after a backslash at the end of a line: the text goes on after the next gap. -/
def continued? (s : List Char) : Option (List Char) :=
  match s.dropWhile isSpace with
  | [] => some []
  | '\n' :: rest => some (rest.dropWhile isGap)
  | _ => none

/-- What a backslash and the characters after it stand for. -/
def escape? (lines : Bool) (s : List Char) : Option (List Char × List Char) :=
  match s with
  | 'b' :: s => some (['\x08'], s)
  | 't' :: s => some (['\t'], s)
  | 'n' :: s => some (['\n'], s)
  | 'f' :: s => some (['\x0c'], s)
  | 'r' :: s => some (['\r'], s)
  | '"' :: s => some (['"'], s)
  | '\\' :: s => some (['\\'], s)
  | 'u' :: s => (hexChar? 4 s).map fun (c, s) => ([c], s)
  | 'U' :: s => (hexChar? 8 s).map fun (c, s) => ([c], s)
  | c :: _ => if lines ∧ isGap c then (continued? s).map fun s => ([], s) else none
  | [] => none

/-- The text up to the closing double quotes: one, or three where the text may have several lines. -/
def basic? (lines : Bool) : (fuel : Nat) → List Char → Option (List Char × List Char)
  | 0, _ => none
  | _ + 1, [] => none
  | fuel + 1, '\\' :: s =>
    match escape? lines s with
    | none => none
    | some (cs, s) => (basic? lines fuel s).map fun (t, s) => (cs ++ t, s)
  | fuel + 1, '"' :: s =>
    if lines then
      match s with
      | '"' :: '"' :: s => some ([], s)
      | s => (basic? lines fuel s).map fun (t, s) => ('"' :: t, s)
    else some ([], s)
  | fuel + 1, c :: s =>
    if isIllegal c ∧ ¬ (lines ∧ c = '\n') then none
    else (basic? lines fuel s).map fun (t, s) => (c :: t, s)

/-- The text up to a closing single quote on the same line. -/
def plainQuoted? : List Char → Option (List Char × List Char)
  | [] => none
  | c :: s =>
    if c = '\'' then some ([], s)
    else if isIllegal c then none
    else (plainQuoted? s).map fun (t, s) => (c :: t, s)

def plainLines? : List Char → Option (List Char × List Char)
  | [] => none
  | '\'' :: '\'' :: '\'' :: s => some ([], s)
  | c :: s =>
    if isIllegal c ∧ c ≠ '\n' then none
    else (plainLines? s).map fun (t, s) => (c :: t, s)

/-- Up to two quotes right after the closing ones belong to the text. -/
def extraQuotes (quote : Char) (t s : List Char) : List Char × List Char :=
  let extra := (s.take 2).takeWhile (· = quote)
  (t ++ extra, s.drop extra.length)

/-- A text of several lines does not begin with a line end. -/
def dropFirstLineEnd : List Char → List Char
  | '\n' :: s => s
  | s => s

def oneLine? (s : List Char) : Option (List Char × List Char) :=
  match s with
  | '"' :: s => basic? false (s.length + 1) s
  | '\'' :: s => plainQuoted? s
  | _ => none

def quoted? (s : List Char) : Option (List Char × List Char) :=
  match s with
  | '"' :: '"' :: '"' :: s =>
    (basic? true (s.length + 1) (dropFirstLineEnd s)).map fun (t, s) => extraQuotes '"' t s
  | '\'' :: '\'' :: '\'' :: s =>
    (plainLines? (dropFirstLineEnd s)).map fun (t, s) => extraQuotes '\'' t s
  | s => oneLine? s

end Typeset.Toml
