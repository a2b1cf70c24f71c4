import Typeset.Yaml.Cursor

/-!
Scalars of YAML as they are written: in single or double quotes, plain, or as a block. Line ends are
folded: a single one becomes a space, and of several the first is dropped.
-/

namespace Typeset.Yaml

open Text Config

/-- What a line end and the empty lines after it become. -/
def folded (first : Char) (more : List Char) : List Char :=
  if first ≠ '\n' then first :: more else if more.isEmpty then [' '] else more

/-- Empty lines within quotes; no mark that separates documents may stand among them. -/
def quotedBreaks : (fuel : Nat) → Cursor → Except ReadError (List Char × Cursor)
  | 0, _ => .error .malformed
  | fuel + 1, c =>
    if c.isSeparator then .error .malformed
    else
      let c := c.dropWhile fun ch => ch = ' ' || ch = '\t'
      match c.lineBreak? with
      | none => .ok ([], c)
      | some (b, c) => do
        let (bs, c) ← quotedBreaks fuel c
        pure (b :: bs, c)

def escapeChar? (c : Char) : Option Char :=
  [('0', '\x00'), ('a', '\x07'), ('b', '\x08'), ('t', '\t'), ('\t', '\t'), ('n', '\n'),
    ('v', '\x0b'), ('f', '\x0c'), ('r', '\r'), ('e', '\x1b'), (' ', ' '), ('"', '"'),
    ('\\', '\\'), ('/', '/'), ('N', '\u0085'), ('_', '\u00a0'), ('L', '\u2028'),
    ('P', '\u2029')].lookup c

def escapeWidth? (c : Char) : Option Nat := [('x', 2), ('u', 4), ('U', 8)].lookup c

def charOfCode (n : Nat) : Except ReadError Char :=
  if n.isValidChar then .ok (Char.ofNat n)
  else if n < 0x110000 then .ok '\ufffd'
  else if n < 0x80000000 then .error .impossible
  else .error .tooLarge

/-- What a backslash stands for, together with what follows it. -/
def quotedEscape (c : Cursor) : Except ReadError (List Char × Cursor) :=
  match escapeChar? c.peek with
  | some ch => .ok ([ch], c.next)
  | none => match escapeWidth? c.peek with
    | some n =>
      let c := c.next
      let ds := c.rest.take n
      if ds.length = n ∧ ds.all isHexDigit then
        (charOfCode (ofDigits 16 (ds.filterMap hexDigit?))).map fun ch => ([ch], c.forward n)
      else .error .malformed
    | none => match c.lineBreak? with
      | some (_, c) => quotedBreaks (c.size + 1) c
      | none => .error .malformed

/-- Blanks within quotes, with the line ends among them. -/
def quotedGap (c : Cursor) : Except ReadError (List Char × Cursor) :=
  let (blanks, c) := c.takeWhile fun ch => ch = ' ' || ch = '\t'
  if c.rest.isEmpty then .error .malformed
  else match c.lineBreak? with
    | none => .ok (blanks, c)
    | some (b, c) => do
      let (bs, c) ← quotedBreaks (c.size + 1) c
      pure (folded b bs, c)

def quotedText (quote : Char) : (fuel : Nat) → Cursor → Except ReadError (List Char × Cursor)
  | 0, _ => .error .malformed
  | fuel + 1, c =>
    let ch := c.peek
    if ch = quote then
      if quote = '\'' ∧ c.peekAt 1 = '\'' then do
        let (t, c) ← quotedText quote fuel (c.forward 2)
        pure ('\'' :: t, c)
      else .ok ([], c.next)
    else if ch = '\\' ∧ quote = '"' then do
      let (e, c) ← quotedEscape c.next
      let (t, c) ← quotedText quote fuel c
      pure (e ++ t, c)
    else if isBlankOrEnd ch then do
      let (g, c) ← quotedGap c
      let (t, c) ← quotedText quote fuel c
      pure (g ++ t, c)
    else do
      let (t, c) ← quotedText quote fuel c.next
      pure (ch :: t, c)

/-- Whether a plain text ends before the character at this place. -/
def endsPlain (inFlow : Bool) (c : Cursor) : Bool :=
  let ch := c.peek
  let after := c.peekAt 1
  isBlankOrEnd ch ||
    (ch = ':' && (isBlankOrEnd after || (inFlow && after ∈ [',', '[', ']', '\x7b', '\x7d']))) ||
    (inFlow && ch ∈ [',', '?', '[', ']', '\x7b', '\x7d'])

def plainPiece (inFlow : Bool) : (fuel : Nat) → Cursor → List Char × Cursor
  | 0, c => ([], c)
  | fuel + 1, c =>
    if endsPlain inFlow c then ([], c)
    else
      let (t, rest) := plainPiece inFlow fuel c.next
      (c.peek :: t, rest)

/-- Empty lines within a plain text; nothing if a mark that separates documents follows one. -/
def plainBreaks : (fuel : Nat) → Cursor → Option (List Char) × Cursor
  | 0, c => (none, c)
  | fuel + 1, c =>
    let c := c.dropWhile (· = ' ')
    match c.lineBreak? with
    | none => (some [], c)
    | some (b, c) =>
      if c.isSeparator then (none, c)
      else
        let (bs, c) := plainBreaks fuel c
        (bs.map (b :: ·), c)

/-- The blanks after a piece of plain text: what they become if the text goes on, whether there is a
line end among them, and the place after them. -/
def plainGap (c : Cursor) : List Char × Bool × Cursor :=
  let (blanks, c) := c.takeWhile (· = ' ')
  match c.lineBreak? with
  | none => (blanks, false, c)
  | some (b, c) =>
    if c.isSeparator then ([], true, c)
    else match plainBreaks (c.size + 1) c with
      | (none, c) => ([], true, c)
      | (some bs, c) => (folded b bs, true, c)

/-- A plain text whose lines are indented by at least `indent`: the text, whether a line end follows
it, and the place after it. -/
def plainText (inFlow : Bool) (indent : Int) :
    (fuel : Nat) → (gap : List Char) → (broken : Bool) → Cursor → List Char × Bool × Cursor
  | 0, _, broken, c => ([], broken, c)
  | fuel + 1, gap, broken, c =>
    if c.peek = '#' then ([], broken, c)
    else
      let (piece, c) := plainPiece inFlow c.size c
      if piece.isEmpty then ([], broken, c)
      else
        let (next, broken, c) := plainGap c
        if next.isEmpty ∨ c.peek = '#' ∨ (¬ inFlow ∧ (c.column : Int) < indent) then
          (gap ++ piece, broken, c)
        else
          let (t, broken, c) := plainText inFlow indent fuel next broken c
          (gap ++ piece ++ t, broken, c)

/-- How the end of a block is treated. -/
inductive Chomping
  | strip
  | clip
  | keep
  deriving DecidableEq

/-- How a character says that the end of a block is treated. -/
def chomping? (c : Char) : Option Chomping :=
  if c = '+' then some .keep else if c = '-' then some .strip else none

/-- The header of a block: how its end is treated, and by how much it is indented. -/
def blockHeader (c : Cursor) : Except ReadError (Chomping × Option Nat × Cursor) := do
  let digit? (c : Cursor) : Except ReadError (Option Nat × Cursor) :=
    match asciiDigit? c.peek with
    | some 0 => .error .malformed
    | some n => .ok (some n, c.next)
    | none => .ok (none, c)
  match chomping? c.peek with
  | some ch =>
    let (n, c) ← digit? c.next
    pure (ch, n, c)
  | none =>
    let (n, c) ← digit? c
    match n, chomping? c.peek with
    | some _, some ch => pure (ch, n, c.next)
    | _, _ => pure (.clip, n, c)

/-- The empty lines in front of a block, and its greatest indentation among them. -/
def leadingBreaks : (fuel : Nat) → (deepest : Nat) → Cursor → List Char × Nat × Cursor
  | 0, deepest, c => ([], deepest, c)
  | fuel + 1, deepest, c =>
    if c.peek = ' ' then leadingBreaks fuel (max deepest c.next.column) c.next
    else match c.lineBreak? with
      | none => ([], deepest, c)
      | some (b, c) =>
        let (bs, deepest, c) := leadingBreaks fuel deepest c
        (b :: bs, deepest, c)

def skipIndent : (fuel indent : Nat) → Cursor → Cursor
  | 0, _, c => c
  | fuel + 1, indent, c =>
    if c.column < indent ∧ c.peek = ' ' then skipIndent fuel indent c.next else c

def blockBreaks (indent : Nat) : (fuel : Nat) → Cursor → List Char × Cursor
  | 0, c => ([], c)
  | fuel + 1, c =>
    let c := skipIndent indent indent c
    match c.lineBreak? with
    | none => ([], c)
    | some (b, c) =>
      let (bs, c) := blockBreaks indent fuel c
      (b :: bs, c)

def atLine (indent : Nat) (c : Cursor) : Bool := c.column = indent && !c.rest.isEmpty

def atBlank (c : Cursor) : Bool := c.peek = ' ' || c.peek = '\t'

def blockGap (isFolded leadingText : Bool) (b : List Char) (breaks : List Char) (after : Cursor) :
    List Char :=
  if isFolded && b == ['\n'] && leadingText && !atBlank after then
    (if breaks.isEmpty then [' '] else breaks)
  else b ++ breaks

/-- The lines of a block from here on: the text, the line end after it, the empty lines after that,
and the place after them. -/
def blockLines (isFolded : Bool) (indent : Nat) :
    (fuel : Nat) → Cursor → List Char × List Char × List Char × Cursor
  | 0, c => ([], [], [], c)
  | fuel + 1, c =>
    let leadingText := !atBlank c
    let (t, c) := c.takeWhile (!isBreak ·)
    let b := (c.lineBreak?.map (·.1)).toList
    let (breaks, c) := blockBreaks indent (c.size + 1) c.skipBreak
    if atLine indent c then
      let (t', b', breaks', rest) := blockLines isFolded indent fuel c
      (t ++ blockGap isFolded leadingText b breaks c ++ t', b', breaks', rest)
    else (t, b, breaks, c)

def blockText (isFolded : Bool) (indent : Int) (c : Cursor) :
    Except ReadError (List Char × Cursor) := do
  let (chomping, increment, c) ← blockHeader c
  if !isSpaceOrEnd c.peek then throw .malformed
  let c ← c.endOfLine
  let least : Nat := max (indent + 1).toNat 1
  let (first, indent, c) := match increment with
    | none =>
      let (bs, deepest, c) := leadingBreaks (c.size + 1) 0 c
      (bs, max least deepest, c)
    | some n =>
      let (bs, c) := blockBreaks (least + n - 1) (c.size + 1) c
      (bs, least + n - 1, c)
  if atLine indent c then
    let (t, b, breaks, c) := blockLines isFolded indent (c.size + 1) c
    pure (first ++ t ++ (if chomping = .strip then [] else b) ++
      (if chomping = .keep then breaks else []), c)
  else pure (if chomping = .keep then first else [], c)

end Typeset.Yaml
