/-!
Words of a command line. `quote` writes a word so that a shell reads it back, `format` writes a whole
command, and `words?` reads a line by the shell's rules for blanks, quotes and backslashes.
-/

namespace Typeset.Shell

/-- Characters that a word may hold without being quoted. -/
def isPlain (c : Char) : Bool :=
  ('a' ≤ c && c ≤ 'z') || ('A' ≤ c && c ≤ 'Z') || ('0' ≤ c && c ≤ '9') ||
    c ∈ ['_', '@', '%', '+', '=', ':', ',', '.', '/', '-']

/-- One character of a word in single quotes; a single quote leaves them and is put in double ones. -/
def quoteChar (c : Char) : List Char := if c = '\'' then ['\'', '"', '\'', '"', '\''] else [c]

def quoteChars (w : List Char) : List Char :=
  if w ≠ [] ∧ w.all isPlain then w else '\'' :: w.flatMap quoteChar ++ ['\'']

def formatChars : List (List Char) → List Char
  | [] => []
  | [w] => quoteChars w
  | w :: ws => quoteChars w ++ ' ' :: formatChars ws

def quote (w : String) : String := String.ofList (quoteChars w.toList)

def format (ws : List String) : String := String.ofList (formatChars (ws.map String.toList))

/-- Between which quotes the reader is. -/
inductive Quoting
  | none
  | single
  | double
  deriving DecidableEq

def isSeparator (c : Char) : Bool := c = ' ' || c = '\t' || c = '\n'

/-- Characters that a backslash protects between double quotes. -/
def isProtected (c : Char) : Bool := c ∈ ['$', '\x60', '"', '\\', '\n']

/-- The words of a line; `word` is the word that is being read, if one has begun. There are none if a
quote stays open or a backslash stands at the end. -/
def wordsFrom : Quoting → (word : Option (List Char)) → List Char → Option (List (List Char))
  | .none, word, [] => some word.toList
  | .none, _, ['\\'] => Option.none
  | .none, word, '\\' :: c :: rest =>
    if c = '\n' then wordsFrom .none word rest
    else wordsFrom .none (some (word.getD [] ++ [c])) rest
  | .none, word, c :: rest =>
    if isSeparator c then (wordsFrom .none Option.none rest).map (word.toList ++ ·)
    else if c = '\'' then wordsFrom .single (some (word.getD [])) rest
    else if c = '"' then wordsFrom .double (some (word.getD [])) rest
    else wordsFrom .none (some (word.getD [] ++ [c])) rest
  | .single, _, [] => Option.none
  | .single, word, c :: rest =>
    if c = '\'' then wordsFrom .none word rest
    else wordsFrom .single (some (word.getD [] ++ [c])) rest
  | .double, _, [] => Option.none
  | .double, _, ['\\'] => Option.none
  | .double, word, '\\' :: c :: rest =>
    if c = '\n' then wordsFrom .double word rest
    else if isProtected c then wordsFrom .double (some (word.getD [] ++ [c])) rest
    else wordsFrom .double (some (word.getD [] ++ ['\\', c])) rest
  | .double, word, c :: rest =>
    if c = '"' then wordsFrom .none word rest
    else wordsFrom .double (some (word.getD [] ++ [c])) rest

def words? (s : String) : Option (List String) :=
  (wordsFrom .none Option.none s.toList).map (·.map String.ofList)

@[simp] theorem quoteChars_nil : quoteChars [] = ['\'', '\''] := rfl

@[simp] theorem formatChars_nil : formatChars [] = [] := rfl

theorem formatChars_cons {w : List Char} {ws : List (List Char)} (h : ws ≠ []) :
    formatChars (w :: ws) = quoteChars w ++ ' ' :: formatChars ws := by
  cases ws with
  | nil => exact absurd rfl h
  | cons => rfl

end Typeset.Shell
