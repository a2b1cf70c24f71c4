import Typeset.Shell.Script

/-!
Tokens of scripts: operators, words, and the words that are reserved. A mistake in a script names the token
that was not expected.
-/

namespace Typeset.Shell

inductive Token
  | ending
  | newline
  | semicolon
  | ampersand
  | andAnd
  | orOr
  | bar
  | openParen
  | closeParen
  | endArm
  | redirection (descriptor : Nat) (direction : Direction) (strips : Bool)
  | word (w : List Piece)
  | keyword (w : String)

def keywords : List String :=
  ["!", "case", "do", "done", "elif", "else", "esac", "fi", "for", "if", "in", "then", "until", "while",
    "\x7b", "\x7d"]

def inQuotes (s : String) : String := "\"" ++ s ++ "\""

namespace Token

/-- The name of a token in complaints. -/
def title : Token → String
  | ending => "end of file"
  | newline => "newline"
  | semicolon => inQuotes ";"
  | ampersand => inQuotes "&"
  | andAnd => inQuotes "&&"
  | orOr => inQuotes "||"
  | bar => inQuotes "|"
  | openParen => inQuotes "("
  | closeParen => inQuotes ")"
  | endArm => inQuotes ";;"
  | redirection _ _ _ => "redirection"
  | word _ => "word"
  | keyword w => inQuotes w

def closes : Token → Bool
  | ending => true
  | closeParen => true
  | endArm => true
  | keyword w => w ∈ ["do", "done", "elif", "else", "esac", "fi", "then", "\x7d"]
  | _ => false

def isKeyword (w : String) : Token → Bool
  | keyword v => v = w
  | _ => false

end Token

inductive Mistake
  | unexpected (t : String) (expected : Option String)
  | openQuote
  | openBrace
  | openSum
  | openBackquote
  | badLoopVariable
  | badFunctionName
  deriving DecidableEq

namespace Mistake

def message : Mistake → String
  | unexpected t none => t ++ " unexpected"
  | unexpected t (some e) => t ++ " unexpected (expecting " ++ e ++ ")"
  | openQuote => "Unterminated quoted string"
  | openBrace => "Missing '\x7d'"
  | openSum => "Missing '))'"
  | openBackquote => "EOF in backquote substitution"
  | badLoopVariable => "Bad for loop variable"
  | badFunctionName => "Bad function name"

end Mistake

structure Flaw where
  line : Nat
  mistake : Mistake
  deriving DecidableEq

/-- The text of a word that is given literally, and whether a part of it is quoted. -/
def literalText : List Piece → Option (List Char × Bool)
  | [] => some ([], false)
  | .literal text quoted :: rest =>
    (literalText rest).map fun r => (text ++ r.1, quoted || r.2)
  | _ => none

/-- The text of a word that is given literally and without quotes. -/
def bareText? (w : List Piece) : Option String :=
  match literalText w with
  | some (text, false) => some (String.ofList text)
  | _ => none

end Typeset.Shell
