import Typeset.Config.ReadError
import Typeset.Text.Digit

/-!
Places in a YAML text. A cursor is what is left of the text, with the number of characters before it,
the line and the column. The end of the text reads as a NUL, which no text may hold. The size of the whole text
bounds every search from a place.
-/

namespace Typeset.Yaml

open Text Config

structure Cursor where
  rest : List Char
  index : Nat
  line : Nat
  column : Nat
  /-- How many characters the whole text has. -/
  size : Nat

def isBreak (c : Char) : Bool := c = '\n' || c = '\u0085' || c = '\u2028' || c = '\u2029'

def isBreakOrEnd (c : Char) : Bool := isBreak c || c = '\x00'

def isSpaceOrEnd (c : Char) : Bool := c = ' ' || isBreakOrEnd c

def isBlankOrEnd (c : Char) : Bool := c = '\t' || isSpaceOrEnd c

/-- Characters of names: ASCII letters and digits, dashes and underscores. -/
def isNameChar (c : Char) : Bool :=
  isDigit c || ('A' ≤ c && c ≤ 'Z') || ('a' ≤ c && c ≤ 'z') || c = '-' || c = '_'

def isAllowed (c : Char) : Bool :=
  let n := c.toNat
  n = 9 || n = 10 || n = 13 || (0x20 ≤ n && n ≤ 0x7e) || n = 0x85 || (0xa0 ≤ n && n ≤ 0xd7ff) ||
    (0xe000 ≤ n && n ≤ 0xfffd) || 0x10000 ≤ n

namespace Cursor

def ofText (s : List Char) : Cursor := ⟨s, 0, 0, 0, s.length⟩

def peek (c : Cursor) : Char := c.rest.head?.getD '\x00'

def peekAt (c : Cursor) (n : Nat) : Char := c.rest[n]?.getD '\x00'

/-- One place further on. A byte order mark takes no column. -/
def next (c : Cursor) : Cursor :=
  match c.rest with
  | [] => c
  | ch :: rest =>
    if isBreak ch then ⟨rest, c.index + 1, c.line + 1, 0, c.size⟩
    else ⟨rest, c.index + 1, c.line, if ch = '\ufeff' then c.column else c.column + 1, c.size⟩

def forward : Nat → Cursor → Cursor
  | 0, c => c
  | n + 1, c => forward n c.next

/-- The longest run of characters that satisfy `p`, and the place after it. -/
def takeWhile (p : Char → Bool) (c : Cursor) : List Char × Cursor :=
  let run := c.rest.takeWhile p
  (run, c.forward run.length)

/-- The place after the longest run of characters that satisfy `p`. -/
def dropWhile (p : Char → Bool) (c : Cursor) : Cursor := (c.takeWhile p).2

/-- A line end, as it counts in a text, and the place after it. -/
def lineBreak? (c : Cursor) : Option (Char × Cursor) :=
  match c.rest with
  | ch :: _ =>
    if isBreak ch then some (if ch = '\u0085' then '\n' else ch, c.next) else none
  | [] => none

def skipBreak (c : Cursor) : Cursor := (c.lineBreak?.map (·.2)).getD c

def skipComment (c : Cursor) : Cursor :=
  if c.peek = '#' then c.dropWhile (!isBreak ·) else c

/-- Whether a mark that separates documents stands here, three times the same character. -/
def isMark (c : Cursor) (ch : Char) : Bool :=
  c.rest.take 3 == [ch, ch, ch] && isBlankOrEnd (c.peekAt 3)

/-- Whether some mark that separates documents stands here. -/
def isSeparator (c : Cursor) : Bool := c.isMark '-' || c.isMark '.'

/-- The place after the rest of a line that holds nothing but blanks and a comment. -/
def endOfLine (c : Cursor) : Except ReadError Cursor :=
  let c := (c.dropWhile (· = ' ')).skipComment
  if isBreakOrEnd c.peek then .ok c.skipBreak else .error .malformed

@[simp] theorem forward_zero (c : Cursor) : c.forward 0 = c := rfl

end Cursor
end Typeset.Yaml
