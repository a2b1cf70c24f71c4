/-!
Scripts of the shell, as trees. A word is a row of pieces, each either quoted or not; a command carries the
line that it begins on.
-/

namespace Typeset.Shell

def isNameChar (c : Char) : Bool := c.isAlphanum || c = '_'

def isNameStart (c : Char) : Bool := c.isAlpha || c = '_'

def isName : List Char → Bool
  | [] => false
  | c :: rest => isNameStart c && rest.all isNameChar

/-- How the value of a parameter is used. With `orEmpty`, an empty value counts as none. -/
inductive Form
  | value
  | length
  | fallback (orEmpty : Bool)
  | assign (orEmpty : Bool)
  | replace (orEmpty : Bool)
  | demand (orEmpty : Bool)
  | dropStart (longest : Bool)
  | dropEnd (longest : Bool)
  /-- It cannot be used in the way that is written. -/
  | invalid
  deriving DecidableEq

/-- What a redirection does with its descriptor. -/
inductive Direction
  | input
  | output
  /-- Output also into a file that must not be overwritten. -/
  | clobber
  | append
  | both
  | duplicate
  | text
  deriving DecidableEq

mutual

inductive Piece
  | literal (text : List Char) (quoted : Bool)
  | parameter (name : String) (form : Form) (word : List Piece) (quoted : Bool)
  | output (body : List Command) (quoted : Bool)
  | arithmetic (expression : List Piece) (quoted : Bool)

inductive Redirection
  | mk (descriptor : Nat) (direction : Direction) (target : List Piece)

inductive Assignment
  | mk (name : String) (value : List Piece)

inductive Arm
  | mk (patterns : List (List Piece)) (body : List Command)

inductive Command
  | simple (line : Nat) (assignments : List Assignment) (words : List (List Piece))
      (redirections : List Redirection)
  | redirected (line : Nat) (c : Command) (redirections : List Redirection)
  | group (body : List Command)
  | subshell (line : Nat) (body : List Command)
  | choose (test yes no : List Command)
  | repeated (untilTrue : Bool) (test body : List Command)
  | forEach (line : Nat) (name : String) (words : Option (List (List Piece))) (body : List Command)
  | select (line : Nat) (word : List Piece) (arms : List Arm)
  | pipeline (parts : List Command)
  | negated (c : Command)
  | both (a b : Command)
  | either (a b : Command)
  | background (c : Command)
  | define (name : String) (body : Command)

end

abbrev Script := List Command

end Typeset.Shell
