import Typeset.Text.Digit
import Typeset.Text.Literal

/-!
The flags of the command line: how each is spelled, whether it takes a value, and what is said about
it. Of the spellings that begin with what was written, a long flag needs one only.
-/

namespace Typeset.CommandLine

open Text

inductive Flag
  | help
  | config
  | dryRun
  | verbose
  | log
  deriving DecidableEq

def levels : List String := ["none", "error", "info", "debug"]

namespace Flag

/-- All flags, in the order in which they are explained. -/
def all : List Flag := [help, config, dryRun, verbose, log]

def spellings : Flag → List String
  | help => ["-h", "--help"]
  | config => ["--config", "-c"]
  | dryRun => ["--dry-run", "-n"]
  | verbose => ["--verbose", "-v"]
  | log => ["--log", "-l"]

/-- What stands for the value of a flag, if it takes one. -/
def placeholder : Flag → Option String
  | config => some "CONFIG"
  | log => some ("\x7b" ++ ",".intercalate levels ++ "\x7d")
  | _ => none

def takesValue (f : Flag) : Bool := f.placeholder.isSome

def explanation : Flag → String
  | help => "show this help message and exit"
  | config => "Path to configuration file (TOML, JSON or YAML)"
  | dryRun => "Probe the toolchain and show the command without running it"
  | verbose => "Enable verbose output (maps to debug)"
  | log => "Set log level (default: none, or the configured level)"

def title (f : Flag) : String := "/".intercalate f.spellings

def table : List (String × Flag) := all.flatMap fun f => f.spellings.map (·, f)

def ofSpelling? (s : String) : Option Flag := table.lookup s

def ofBeginning (s : String) : List (String × Flag) :=
  table.filter fun p => s.toList.isPrefixOf p.1.toList

theorem takesValue_iff (f : Flag) : f.takesValue = true ↔ f = config ∨ f = log := by
  cases f <;> decide

end Flag

/-- A word of the command line by its role. A flag may have a value attached: after an equals sign, or directly
behind a letter. -/
inductive Word
  | plain (s : String)
  | separator
  | flag (f : Flag) (spelling : String) (value : Option String)
  | unknown (s : String)
  deriving DecidableEq

inductive Misuse
  | ambiguous (word : String) (candidates : List String)
  | missingValue (f : Flag)
  | unusedValue (f : Flag) (value : String)
  | notALevel (value : String)
  | missingFiles
  | unrecognized (words : List String)
  deriving DecidableEq

namespace Misuse

def message : Misuse → String
  | ambiguous word candidates =>
    "ambiguous option: " ++ word ++ " could match " ++ ", ".intercalate candidates
  | missingValue f => "argument " ++ f.title ++ ": expected one argument"
  | unusedValue f value =>
    "argument " ++ f.title ++ ": ignored explicit argument " ++ Literal.ofText value
  | notALevel value =>
    "argument " ++ Flag.log.title ++ ": invalid choice: " ++ Literal.ofText value ++
      " (choose from " ++ ", ".intercalate (levels.map Literal.ofText) ++ ")"
  | missingFiles => "the following arguments are required: files"
  | unrecognized words => "unrecognized arguments: " ++ " ".intercalate words

end Misuse

namespace Word

def toText : Word → String
  | plain s => s
  | separator => "--"
  | flag _ s _ => s
  | unknown s => s

/-- What stands before the first equals sign, and what stands behind it. -/
def cutAtEquals (s : String) : String × Option String :=
  match s.toList.dropWhile (· ≠ '=') with
  | [] => (s, none)
  | _ :: rest => (String.ofList (s.toList.takeWhile (· ≠ '=')), some (String.ofList rest))

def isAnyDigit (c : Char) : Bool := (digitValue? c).isSome

/-- Decimal digits and nothing else, but for a line end behind them. -/
def isDigits (s : List Char) : Bool :=
  s.any isAnyDigit && (s.dropWhile isAnyDigit == [] || s.dropWhile isAnyDigit == ['\n'])

def isNegativeNumber (s : String) : Bool :=
  match s.toList with
  | '-' :: rest =>
    isDigits rest ||
      match rest.dropWhile isAnyDigit with
      | '.' :: fraction => isDigits fraction
      | _ => false
  | _ => false

/-- The flags that a word which is no full spelling may stand for. -/
def candidates (s : String) : List Word :=
  let (name, value) := cutAtEquals s
  match s.toList with
  | '-' :: '-' :: _ =>
    (Flag.ofBeginning name).map fun p => .flag p.2 p.1 value
  | '-' :: c :: rest =>
    let short := String.ofList ['-', c]
    (Flag.ofSpelling? short).toList.map fun f =>
      .flag f short (some (String.ofList rest))
  | _ => []

/-- The role of a word that stands before the separator. -/
def classify (s : String) : Except Misuse Word :=
  if s.toList.head? ≠ some '-' ∨ s = "-" then .ok (.plain s)
  else match Flag.ofSpelling? s with
    | some f => .ok (.flag f s none)
    | none =>
      let (name, value) := cutAtEquals s
      match Flag.ofSpelling? name, value with
      | some f, some v => .ok (.flag f name (some v))
      | _, _ => match candidates s with
        | [] => .ok (if isNegativeNumber s ∨ ' ' ∈ s.toList then .plain s else .unknown s)
        | [w] => .ok w
        | ws => .error (.ambiguous s (ws.map toText))

/-- The roles of the words of a command line; after the separator every word is plain. -/
def classifyAll : List String → Except Misuse (List Word)
  | [] => .ok []
  | s :: rest =>
    if s = "--" then .ok (.separator :: rest.map .plain)
    else do
      let w ← classify s
      let ws ← classifyAll rest
      pure (w :: ws)

theorem classify_of_not_dash {s : String} (h : s.toList.head? ≠ some '-') :
    classify s = .ok (.plain s) := by
  simp [classify, h]

end Word
end Typeset.CommandLine
