import Typeset.Config.Calendar
import Typeset.Number
import Typeset.Number.Radix
import Typeset.Text.Literal
import Typeset.Text.Utf8

/-!
Configuration data: what a configuration file can say. Mappings keep the order in which their keys
first came; of a repeated key the last value counts. Keys are compared by value, so that `true`, `1`
and `1.0` are one key.
-/

namespace Typeset.Config

open Text Utf8

inductive Value
  | null
  | bool (b : Bool)
  | int (n : Int)
  | real (x : Binary64)
  | text (s : String)
  | bytes (bs : Bytes)
  | date (d : Date)
  | time (t : TimeOfDay)
  | dateTime (t : DateTime)
  | pair (a b : Value)
  | list (vs : List Value)
  | set (vs : List Value)
  | map (ps : List (Value × Value))
  /-- A collection inside itself. -/
  | enclosing (isMap : Bool)

instance : Inhabited Value := ⟨.null⟩

/-- Why a value cannot be written. -/
inductive Value.Flaw
  | integerTooLong
  | tooDeep
  deriving DecidableEq

abbrev Mapping := List (Value × Value)

namespace Value

def isKey : Value → Bool
  | list _ => false
  | set _ => false
  | map _ => false
  | enclosing _ => false
  | pair a b => a.isKey && b.isKey
  | _ => true

def number? : Value → Option Number
  | bool b => some (.int (if b then 1 else 0))
  | int n => some (.int n)
  | real x => some (.real x)
  | _ => none

end Value

def sameNumber : Number → Number → Bool
  | .int m, .int n => m == n
  | .int m, .real x => x.toInt? == some m
  | .real x, .int n => x.toInt? == some n
  | .real x, .real y => x.sameNumber y

namespace Value

def sameKey : Value → Value → Bool
  | null, null => true
  | text s, text t => s == t
  | bytes s, bytes t => s == t
  | date d, date e => d == e
  | time t, time u => t == u
  | dateTime t, dateTime u => t.sameInstant u
  | pair a b, pair c d => a.sameKey c && b.sameKey d
  | v, w => match v.number?, w.number? with
    | some m, some n => sameNumber m n
    | _, _ => false

def boolLiteral (b : Bool) : String := if b then "True" else "False"

mutual

def literal : Value → String
  | null => "None"
  | bool b => boolLiteral b
  | int n => toString n
  | real x => x.toText
  | text s => Text.Literal.ofText s
  | bytes bs => Text.Literal.ofBytes bs
  | date d => Literal.ofDate d
  | time t => Literal.ofTime t
  | dateTime t => Literal.ofDateTime t
  | pair a b => "(" ++ literal a ++ ", " ++ literal b ++ ")"
  | list vs => "[" ++ ", ".intercalate (literals vs) ++ "]"
  | set vs =>
    if vs.isEmpty then "set()" else "\x7b" ++ ", ".intercalate (literals vs) ++ "\x7d"
  | map ps => "\x7b" ++ ", ".intercalate (pairLiterals ps) ++ "\x7d"
  | enclosing isMap => if isMap then "\x7b...\x7d" else "[...]"

def literals : List Value → List String
  | [] => []
  | v :: vs => literal v :: literals vs

def pairLiterals : List (Value × Value) → List String
  | [] => []
  | (k, v) :: ps => (literal k ++ ": " ++ literal v) :: pairLiterals ps

end

mutual

/-- The first flaw that a writer finds in a value, if it can be inside so many collections. -/
def flaw? : (room : Nat) → Value → Option Flaw
  | _, int n => if fitsDigitLimit n then none else some .integerTooLong
  | 0, pair _ _ => some .tooDeep
  | room + 1, pair a b => (flaw? room a).or (flaw? room b)
  | room, list vs => flaws? room vs
  -- the members of a set are written as a list of them
  | room, set vs => flaws? (room - 1) vs
  | room, map ps => pairFlaws? room ps
  | _, _ => none

def flaws? : (room : Nat) → List Value → Option Flaw
  | _, [] => none
  | 0, _ :: _ => some .tooDeep
  | room + 1, v :: vs => (flaw? room v).or (flaws? (room + 1) vs)

def pairFlaws? : (room : Nat) → List (Value × Value) → Option Flaw
  | _, [] => none
  | 0, _ :: _ => some .tooDeep
  | room + 1, (k, v) :: ps =>
    ((flaw? room k).or (flaw? room v)).or (pairFlaws? (room + 1) ps)

end

def isWritable (room : Nat) (v : Value) : Bool := (v.flaw? room).isNone

/-- The text of a value: a text stands for itself, and a date is written without its literal. -/
def toText : Value → String
  | text s => s
  | date d => d.toText
  | time t => t.toText
  | dateTime t => t.toText " "
  | v => v.literal

@[simp] theorem toText_text (s : String) : (text s).toText = s := rfl

@[simp] theorem sameKey_text (s t : String) : (text s).sameKey (text t) = (s == t) := rfl

end Value

namespace Mapping

def get? (m : Mapping) (key : Value) : Option Value :=
  (m.find? fun p => p.1.sameKey key).map (·.2)

def insert : Mapping → Value → Value → Mapping
  | [], key, value => [(key, value)]
  | (k, v) :: m, key, value =>
    if k.sameKey key then (k, value) :: m else (k, v) :: insert m key value

/-- The mapping of keys with values; of a repeated key the last value counts. -/
def ofPairs (ps : List (Value × Value)) : Mapping := ps.foldl (fun m p => insert m p.1 p.2) []

def lookup (m : Mapping) (key : String) : Option Value := get? m (.text key)

@[simp] theorem get?_nil (key : Value) : get? [] key = none := rfl

end Mapping
end Typeset.Config
