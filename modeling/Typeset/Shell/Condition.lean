import Typeset.FileSystem.Change
import Typeset.Shell.Numeral
import Typeset.Shell.Octets

/-!
Conditions: the expressions of `test`. A word is an operator unless the words around it make it an operand;
alternatives are weaker than conjunctions. An expression is told by its truth and by the words from its last
one on.
-/

namespace Typeset.Shell.Condition

structure Place where
  files : FileSystem
  directory : Location

inductive Role
  | ending
  | operand
  | unary
  | binary
  | not
  | and
  | or
  | openParen
  | closeParen
  deriving DecidableEq

def roleOf (w : String) : Role :=
  if w ∈ ["-n", "-z", "-e", "-f", "-d", "-r", "-w", "-x", "-s", "-h", "-L", "-p", "-t", "-u", "-g", "-k",
    "-b", "-c", "-S", "-O", "-G"] then .unary
  else if w ∈ ["=", "!=", "<", ">", "-eq", "-ne", "-lt", "-le", "-gt", "-ge", "-nt", "-ot", "-ef"] then
    .binary
  else match w with
    | "!" => .not
    | "-a" => .and
    | "-o" => .or
    | "(" => .openParen
    | ")" => .closeParen
    | _ => .operand

def role : List String → Role
  | [] => .ending
  | w :: rest =>
    match roleOf w, rest with
    | .unary, [] => .operand
    | .unary, [_] => .unary
    | .unary, next :: _ => if roleOf next = .binary then .operand else .unary
    | .openParen, [] => .operand
    | r, _ => r

def integer (w : String) : Except String Int :=
  match Numeral.whole? (Numeral.readDecimal? w.toList) with
  | some n => .ok n
  | none => .error ("Illegal number: " ++ w)

def isLink (p : Place) (path : String) : Bool :=
  match p.files.linkLocation p.directory path with
  | .ok loc => match p.files.entry? loc with
    | some (.link _) => true
    | _ => false
  | .error _ => false

def unary (p : Place) (op w : String) : Except String Bool :=
  let path := Octets.toText w
  if op = "-n" then .ok (w ≠ "")
  else if op = "-z" then .ok (w = "")
  else if op = "-t" then (integer w).map fun _ => false
  else if op = "-h" ∨ op = "-L" then .ok (isLink p path)
  else match p.files.stat p.directory path with
    | .error _ => .ok false
    | .ok e =>
      .ok <| match op, e with
      | "-e", _ => true
      | "-d", .directory => true
      | "-f", .file _ _ => true
      | "-f", .tool _ => true
      | "-s", .file content _ => !content.isEmpty
      | "-s", .device => false
      | "-s", _ => true
      | "-c", .device => true
      | "-r", .file _ mode => FileSystem.readable mode
      | "-w", .file _ mode => mode.testBit 7
      | "-x", .file _ mode => FileSystem.executable mode
      | "-w", .tool _ => false
      | "-x", .device => false
      | "-r", _ => true
      | "-w", _ => true
      | "-x", _ => true
      | "-O", _ => true
      | "-G", _ => true
      | _, _ => false

def isSame (p : Place) (a b : String) : Bool :=
  match p.files.locate p.directory (Octets.toText a), p.files.locate p.directory (Octets.toText b) with
  | .ok x, .ok y => x = y
  | _, _ => false

def binary (p : Place) (op a b : String) : Except String Bool := do
  match op with
  | "=" => pure (a = b)
  | "!=" => pure (a ≠ b)
  | "<" => pure (a < b)
  | ">" => pure (b < a)
  | "-nt" => pure false
  | "-ot" => pure false
  | "-ef" => pure (isSame p a b)
  | _ =>
    let x ← integer a
    let y ← integer b
    pure (match op with
      | "-eq" => x = y
      | "-ne" => x ≠ y
      | "-lt" => x < y
      | "-le" => x ≤ y
      | "-gt" => x > y
      | _ => x ≥ y)

/-- The truth of an expression, and the words from its last one on. -/
abbrev Answer := Except String (Bool × List String)

mutual

def anyOf (p : Place) (found : Bool) : (fuel : Nat) → Role → List String → Answer
  | 0, _, ws => .ok (found, ws)
  | fuel + 1, r, ws => do
    let (b, ws) ← allOf p true fuel r ws
    let found := found || b
    if role (ws.drop 1) = .or then anyOf p found fuel (role (ws.drop 2)) (ws.drop 2)
    else pure (found, ws)

def allOf (p : Place) (holds : Bool) : (fuel : Nat) → Role → List String → Answer
  | 0, _, ws => .ok (holds, ws)
  | fuel + 1, r, ws => do
    let (b, ws) ← negation p fuel r ws
    let holds := holds && b
    if role (ws.drop 1) = .and then allOf p holds fuel (role (ws.drop 2)) (ws.drop 2)
    else pure (holds, ws)

def negation (p : Place) : (fuel : Nat) → Role → List String → Answer
  | 0, _, ws => .ok (false, ws)
  | fuel + 1, r, ws => do
    if r = .not then
      let next := role (ws.drop 1)
      let (b, ws) ← negation p fuel next (if next = .ending then ws else ws.drop 1)
      pure (!b, ws)
    else primary p fuel r ws

def primary (p : Place) : (fuel : Nat) → Role → List String → Answer
  | 0, _, ws => .ok (false, ws)
  | fuel + 1, r, ws => do
    match r, ws with
    | .ending, ws => pure (false, ws)
    | .openParen, _ :: rest =>
      if role rest = .closeParen then pure (false, rest)
      else
        let (b, ws) ← anyOf p false fuel (role rest) rest
        if role (ws.drop 1) ≠ .closeParen then throw "closing paren expected"
        pure (b, ws.drop 1)
    | .unary, op :: rest =>
      match rest with
      | [] => throw (op ++ ": argument expected")
      | w :: _ => do pure (← unary p op w, rest)
    | _, a :: op :: rest =>
      if role (op :: rest) = .binary then
        match rest with
        | [] => throw (op ++ ": argument expected")
        | b :: _ => do pure (← binary p op a b, rest)
      else pure (a ≠ "", a :: op :: rest)
    | _, [a] => pure (a ≠ "", [a])
    | _, [] => pure (false, [])

end

/-- The truth of all the words, where `r` is what the first of them is. -/
def judged (p : Place) (r : Role) (words : List String) : Except String Bool := do
  let (b, rest) ← anyOf p false (4 * words.length + 8) r words
  match rest with
  | w :: _ :: _ => throw (w ++ ": unexpected operator")
  | _ => pure b

/-- The truth of the words that are left once some were read as a denial of all the others: three
words with an operator between two operands are compared; three or four may stand between
parentheses, or be denied as a whole, and then only once. -/
def weighed (p : Place) (isDenied : Bool) : List String → Except String Bool
  | [] => .ok isDenied
  | w :: rest =>
    let words := w :: rest
    let isShort : Bool := rest.length = 2 ∨ rest.length = 3
    let isPlain : Bool := match rest with
      | [op, _] => roleOf op = .binary
      | _ => false
    if isPlain then (judged p .operand words).map (· != isDenied)
    else if isShort ∧ w = "(" ∧ rest.getLast? = some ")" then
      (judged p (role rest.dropLast) rest.dropLast).map (· != isDenied)
    else if isShort ∧ w = "!" then weighed p true rest
    else (judged p (role words) words).map (· != isDenied)

def test (p : Place) (words : List String) : Except String Bool := weighed p false words

end Typeset.Shell.Condition
