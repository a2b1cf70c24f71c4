import Typeset.Config.Value

/-!
Documents of tables. A document is built statement by statement: a key is assigned, a table is opened
or an element is added to a list of tables. A table may be opened once by its header, and tables made
by dotted keys are closed when the next section begins; values are closed from the start.
-/

namespace Typeset.Toml

open Config

/-- What a key of a table holds. A table is closed from the section on that `closed` gives. -/
inductive Node
  | value (v : Value)
  | table (closed : Option Nat) (entries : List (String × Node))
  | tables (earlier : List (List (String × Node))) (last : List (String × Node))

abbrev Entries := List (String × Node)

def find? (es : Entries) (key : String) : Option Node :=
  (es.find? fun e => e.1 == key).map (·.2)

/-- Gives a key new content: in its place, or at the end. -/
def put : Entries → String → Node → Entries
  | [], key, n => [(key, n)]
  | (k, old) :: es, key, n => if k = key then (k, n) :: es else (k, old) :: put es key n

def isClosed (closed : Option Nat) (current : Nat) : Bool := closed.any (· ≤ current)

def assign (current : Nat) : Entries → List String → Value → Option Entries
  | _, [], _ => none
  | es, [key], v => if (find? es key).isSome then none else some (put es key (.value v))
  | es, key :: rest, v =>
    match find? es key with
    | none => (assign current [] rest v).map fun inner => put es key (.table (some (current + 1)) inner)
    | some (.table closed inner) =>
      if isClosed closed current then none
      else (assign current inner rest v).map fun inner =>
        put es key (.table (some (closed.getD (current + 1))) inner)
    | some _ => none

/-- Changes the entries that a path of headers leads to; what is missing on the way is made. -/
def descend (es : Entries) (path : List String) (change : Entries → Option Entries) :
    Option Entries :=
  match path with
  | [] => change es
  | key :: rest =>
    match find? es key with
    | none => (descend [] rest change).map fun inner => put es key (.table none inner)
    | some (.table closed inner) =>
      (descend inner rest change).map fun inner => put es key (.table closed inner)
    | some (.tables earlier last) =>
      (descend last rest change).map fun last => put es key (.tables earlier last)
    | some (.value _) => none

def openTable (current : Nat) (es : Entries) (path : List String) : Option Entries :=
  match path.getLast? with
  | none => none
  | some key => descend es path.dropLast fun es =>
    match find? es key with
    | none => some (put es key (.table (some current) []))
    | some (.table closed inner) =>
      if isClosed closed current then none else some (put es key (.table (some current) inner))
    | some _ => none

def appendTable (es : Entries) (path : List String) : Option Entries :=
  match path.getLast? with
  | none => none
  | some key => descend es path.dropLast fun es =>
    match find? es key with
    | none => some (put es key (.tables [] []))
    | some (.tables earlier last) => some (put es key (.tables (earlier ++ [last]) []))
    | some _ => none

def assignBelow (current : Nat) (es : Entries) (header key : List String) (v : Value) :
    Option Entries :=
  descend es header fun es => assign current es key v

mutual

def Node.toValue : Node → Value
  | .value v => v
  | .table _ es => .map (toPairs es)
  | .tables earlier last => .list (toMaps earlier ++ [.map (toPairs last)])

def toPairs : List (String × Node) → Mapping
  | [] => []
  | (k, n) :: es => (.text k, n.toValue) :: toPairs es

def toMaps : List (List (String × Node)) → List Value
  | [] => []
  | es :: rest => .map (toPairs es) :: toMaps rest

end

@[simp] theorem find?_nil (key : String) : find? [] key = none := rfl

theorem find?_put (es : Entries) (key : String) (n : Node) : find? (put es key n) key = some n := by
  induction es with
  | nil => simp [put, find?]
  | cons e es ih =>
    obtain ⟨k, old⟩ := e
    simp only [put]
    split
    next h => simp [find?, h]
    next h =>
      have : (k == key) = false := by simpa using h
      simp only [find?, List.find?_cons, this] at ih ⊢
      exact ih

end Typeset.Toml
