import Typeset.Toml.Document
import Typeset.Toml.Quoted
import Typeset.Toml.Scalar

/-!
Reading TOML. A document is a row of statements, each on its own line: keys with values, headers of
tables and headers of lists of tables.
-/

namespace Typeset.Toml

open Text Config

def ofOption {α : Type} : Option α → Except ReadError α
  | some a => .ok a
  | none => .error .malformed

def skipSpace (s : List Char) : List Char := s.dropWhile isSpace

def skipComment (s : List Char) : Except ReadError (List Char) :=
  match s with
  | '#' :: s =>
    if (s.takeWhile (· ≠ '\n')).any isIllegal then .error .malformed
    else .ok (s.dropWhile (· ≠ '\n'))
  | s => .ok s

/-- The text without blanks, line ends and comments in front. -/
def skipGaps : (fuel : Nat) → List Char → Except ReadError (List Char)
  | 0, s => .ok s
  | fuel + 1, s =>
    match s.dropWhile isGap with
    | '#' :: s => do skipGaps fuel (← skipComment ('#' :: s))
    | s => .ok s

def isKeyChar (c : Char) : Bool :=
  ('a' ≤ c && c ≤ 'z') || ('A' ≤ c && c ≤ 'Z') || isDigit c || c = '-' || c = '_'

def keyPart (s : List Char) : Except ReadError (String × List Char) :=
  match s with
  | c :: _ =>
    if isKeyChar c then .ok (String.ofList (s.takeWhile isKeyChar), s.dropWhile isKeyChar)
    else do
      let (t, s) ← ofOption (oneLine? s)
      pure (String.ofList t, s)
  | [] => .error .malformed

def key : (fuel : Nat) → List Char → Except ReadError (List String × List Char)
  | 0, _ => .error .malformed
  | fuel + 1, s => do
    let (k, s) ← keyPart s
    match skipSpace s with
    | '.' :: s => do
      let (ks, s) ← key fuel (skipSpace s)
      pure (k :: ks, s)
    | s => pure ([k], s)

mutual

/-- A value that is read in `room` steps inside one another: a list takes two, and a table three. -/
def value : (fuel room : Nat) → List Char → Except ReadError (Value × List Char)
  | 0, _, _ => .error .malformed
  | fuel + 1, room, s =>
    match s with
    | '"' :: _ => do let (t, s) ← ofOption (quoted? s); pure (.text (String.ofList t), s)
    | '\'' :: _ => do let (t, s) ← ofOption (quoted? s); pure (.text (String.ofList t), s)
    | 't' :: 'r' :: 'u' :: 'e' :: s => pure (.bool true, s)
    | 'f' :: 'a' :: 'l' :: 's' :: 'e' :: s => pure (.bool false, s)
    | '[' :: s => do
      if room < 2 then throw .tooDeep
      match ← skipGaps s.length s with
      | ']' :: s => pure (.list [], s)
      | s => do let (vs, s) ← elements fuel (room - 2) s; pure (.list vs, s)
    | '\x7b' :: s => do
      if room < 3 then throw .tooDeep
      match skipSpace s with
      | '\x7d' :: s => pure (.map [], s)
      | s => do let (es, s) ← inlineEntries fuel (room - 3) [] s; pure (.map (toPairs es), s)
    | s => scalar s

def elements : (fuel room : Nat) → List Char → Except ReadError (List Value × List Char)
  | 0, _, _ => .error .malformed
  | fuel + 1, room, s => do
    let (v, s) ← value fuel room s
    match ← skipGaps s.length s with
    | ']' :: s => pure ([v], s)
    | ',' :: s =>
      match ← skipGaps s.length s with
      | ']' :: s => pure ([v], s)
      | s => do let (vs, s) ← elements fuel room s; pure (v :: vs, s)
    | _ => throw .malformed

/-- The entries of a table between braces up to its end. -/
def inlineEntries : (fuel room : Nat) → Entries → List Char →
    Except ReadError (Entries × List Char)
  | 0, _, _, _ => .error .malformed
  | fuel + 1, room, es, s => do
    let ((k, v), s) ← assignment fuel room s
    let es ← ofOption (assign 0 es k v)
    match skipSpace s with
    | '\x7d' :: s => pure (es, s)
    | ',' :: s => inlineEntries fuel room es (skipSpace s)
    | _ => throw .malformed

def assignment : (fuel room : Nat) → List Char →
    Except ReadError ((List String × Value) × List Char)
  | 0, _, _ => .error .malformed
  | fuel + 1, room, s => do
    let (k, s) ← key s.length s
    let s ← ofOption (expect '=' s)
    let (v, s) ← value fuel room (skipSpace s)
    pure ((k, v), s)

end

/-- What has been read of a document: the number of the section, its header, and all entries. -/
structure Progress where
  number : Nat
  header : List String
  entries : Entries

def statement (p : Progress) (s : List Char) : Except ReadError (Progress × List Char) :=
  match s with
  | '[' :: '[' :: s => do
    let (k, s) ← key s.length (skipSpace s)
    let es ← ofOption (appendTable p.entries k)
    let s ← ofOption (expect ']' (← ofOption (expect ']' s)))
    pure (⟨p.number + 1, k, es⟩, skipSpace s)
  | '[' :: s => do
    let (k, s) ← key s.length (skipSpace s)
    let es ← ofOption (openTable (p.number + 1) p.entries k)
    let s ← ofOption (expect ']' s)
    pure (⟨p.number + 1, k, es⟩, skipSpace s)
  | '#' :: _ => pure (p, s)
  | s => do
    let ((k, v), s) ← assignment (2 * s.length + 2) nestingRoom s
    let es ← ofOption (assignBelow p.number p.entries p.header k v)
    pure ({ p with entries := es }, skipSpace s)

def statements : (fuel : Nat) → Progress → List Char → Except ReadError Progress
  | 0, _, _ => .error .malformed
  | fuel + 1, p, s =>
    match skipSpace s with
    | [] => .ok p
    | '\n' :: s => statements fuel p s
    | s => do
      let (p, s) ← statement p s
      match ← skipComment s with
      | [] => pure p
      | '\n' :: s => statements fuel p s
      | _ => throw .malformed

def read (s : String) : Except ReadError Value := do
  let p ← statements (s.length + 1) ⟨0, [], []⟩ s.toList
  pure (.map (toPairs p.entries))

@[simp] theorem skipSpace_nil : skipSpace [] = [] := rfl

end Typeset.Toml
