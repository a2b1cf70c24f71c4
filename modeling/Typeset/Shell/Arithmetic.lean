import Typeset.Shell.Numeral

/-!
Arithmetic of the shell: expressions over integers of 64 bits, with the variables of the shell. An
expression is read into a tree first; its value is told together with the variables that it sets.
-/

namespace Typeset.Shell.Arithmetic

inductive Operator
  | times | over | modulo | plus | minus
  | shiftLeft | shiftRight
  | less | lessEqual | greater | greaterEqual | equal | unequal
  | bitAnd | bitXor | bitOr
  deriving DecidableEq

inductive Expression
  | number (n : Int)
  | variable (name : String)
  | negative (a : Expression)
  | complement (a : Expression)
  | not (a : Expression)
  | binary (op : Operator) (a b : Expression)
  | both (a b : Expression)
  | either (a b : Expression)
  | choose (test yes no : Expression)
  | assign (name : String) (a : Expression)

inductive Mistake
  | noOperand
  | leftOver
  | divisionByZero
  | illegalNumber (text : String)
  deriving DecidableEq

def Mistake.message (expression : String) : Mistake → String
  | .noOperand => "arithmetic expression: expecting primary: \"" ++ expression ++ "\""
  | .leftOver => "arithmetic expression: expecting EOF: \"" ++ expression ++ "\""
  | .divisionByZero => "arithmetic expression: division by zero: \"" ++ expression ++ "\""
  | .illegalNumber text => "Illegal number: " ++ text

/-- The integer of 64 bits with a sign that is equal to `n` up to multiples of `2 ^ 64`. -/
def wrap (n : Int) : Int := n.bmod UInt64.size

def ofBool (b : Bool) : Int := if b then 1 else 0

def bitwise (f : UInt64 → UInt64 → UInt64) (a b : Int) : Int :=
  wrap (f (UInt64.ofNat (a % UInt64.size).toNat) (UInt64.ofNat (b % UInt64.size).toNat)).toNat

namespace Operator

def apply (a b : Int) : Operator → Option Int
  | .times => some (wrap (a * b))
  | .over => if b = 0 then none else some (wrap (a.tdiv b))
  | .modulo => if b = 0 then none else some (wrap (a.tmod b))
  | .plus => some (wrap (a + b))
  | .minus => some (wrap (a - b))
  | .shiftLeft => some (wrap (a * Nat.pow 2 (b % 64).toNat))
  | .shiftRight => some (a >>> (b % 64).toNat)
  | .less => some (ofBool (a < b))
  | .lessEqual => some (ofBool (a ≤ b))
  | .greater => some (ofBool (a > b))
  | .greaterEqual => some (ofBool (a ≥ b))
  | .equal => some (ofBool (a = b))
  | .unequal => some (ofBool (a ≠ b))
  | .bitAnd => some (bitwise (· &&& ·) a b)
  | .bitXor => some (bitwise (· ^^^ ·) a b)
  | .bitOr => some (bitwise (· ||| ·) a b)

theorem apply_eq_none_iff {op : Operator} {a b : Int} :
    op.apply a b = none ↔ b = 0 ∧ (op = .over ∨ op = .modulo) := by
  cases op <;> simp [apply]

end Operator

inductive Joint
  | operator (op : Operator)
  | both
  | either

def Joint.join (a b : Expression) : Joint → Expression
  | .operator op => .binary op a b
  | .both => .both a b
  | .either => .either a b

/-- Infix operators with what may not follow them, weaker ones first. -/
def strengths : List (List (String × List Char × Joint)) :=
  [[("||", [], .either)],
   [("&&", [], .both)],
   [("|", ['|', '='], .operator .bitOr)],
   [("^", ['='], .operator .bitXor)],
   [("&", ['&', '='], .operator .bitAnd)],
   [("==", [], .operator .equal), ("!=", [], .operator .unequal)],
   [("<=", [], .operator .lessEqual), (">=", [], .operator .greaterEqual),
    ("<", ['<'], .operator .less), (">", ['>'], .operator .greater)],
   [("<<", ['='], .operator .shiftLeft), (">>", ['='], .operator .shiftRight)],
   [("+", ['='], .operator .plus), ("-", ['='], .operator .minus)],
   [("*", ['='], .operator .times), ("/", ['='], .operator .over),
    ("%", ['='], .operator .modulo)]]

def changes : List (String × Operator) :=
  [("<<=", .shiftLeft), (">>=", .shiftRight), ("+=", .plus), ("-=", .minus), ("*=", .times),
    ("/=", .over), ("%=", .modulo), ("&=", .bitAnd), ("^=", .bitXor), ("|=", .bitOr)]

abbrev Reading := StateT (List Char) (Except Mistake)

def blanks : Reading Unit := modify (·.dropWhile fun c => c = ' ' || c = '\t' || c = '\n')

/-- Takes an operator that stands at the front, unless one of some characters follows it. -/
def accept (w : String) (barred : List Char) : Reading Bool := do
  blanks
  let s ← get
  let rest := s.drop w.length
  if w.toList.isPrefixOf s && !(rest.head?.any (· ∈ barred)) then
    set rest
    pure true
  else pure false

/-- Takes the first of some texts that stands at the front, and tells what goes with it. -/
def acceptAny {α : Type} : List (String × List Char × α) → Reading (Option α)
  | [] => pure none
  | (w, barred, a) :: rest => do
    if ← accept w barred then pure (some a) else acceptAny rest

mutual

def whole : (fuel : Nat) → Reading Expression
  | 0 => throw .noOperand
  | fuel + 1 => do
    blanks
    let s ← get
    let name := s.takeWhile fun c => c.isAlphanum || c = '_'
    let start := name.head?.any fun c => c.isAlpha || c = '_'
    if start then
      set (s.drop name.length)
      if ← accept "=" ['='] then return .assign (String.ofList name) (← whole fuel)
      if let some op ← acceptAny (changes.map fun c => (c.1, [], c.2)) then
        return .assign (String.ofList name)
          (.binary op (.variable (String.ofList name)) (← whole fuel))
      set s
    let test ← joined strengths fuel
    if ← accept "?" [] then
      let yes ← whole fuel
      if !(← accept ":" []) then throw .leftOver
      pure (.choose test yes (← whole fuel))
    else pure test

/-- Operands with infix operators of the given strengths between them. -/
def joined (operators : List (List (String × List Char × Joint))) :
    (fuel : Nat) → Reading Expression
  | 0 => throw .noOperand
  | fuel + 1 =>
    match operators with
    | [] => operand fuel
    | ops :: stronger => do further ops stronger (← joined stronger fuel) fuel

def further (ops : List (String × List Char × Joint))
    (stronger : List (List (String × List Char × Joint))) (a : Expression) :
    (fuel : Nat) → Reading Expression
  | 0 => throw .noOperand
  | fuel + 1 => do
    match ← acceptAny ops with
    | none => pure a
    | some j =>
      let b ← joined stronger fuel
      further ops stronger (j.join a b) fuel

/-- An operand: a number, a variable, an expression in parentheses, or an operand with a sign. -/
def operand : (fuel : Nat) → Reading Expression
  | 0 => throw .noOperand
  | fuel + 1 => do
    if ← accept "-" [] then pure (.negative (← operand fuel))
    else if ← accept "+" [] then operand fuel
    else if ← accept "!" [] then pure (.not (← operand fuel))
    else if ← accept "~" [] then pure (.complement (← operand fuel))
    else if ← accept "(" [] then
      let a ← whole fuel
      if ← accept ")" [] then pure a else throw .leftOver
    else
      let s ← get
      match s with
      | [] => throw .noOperand
      | c :: _ =>
        if c.isDigit then
          let (n, rest) := Numeral.unsigned s
          set rest
          pure (.number (Numeral.toSigned ⟨false, n⟩))
        else if c.isAlpha || c = '_' then
          let name := s.takeWhile fun c => c.isAlphanum || c = '_'
          set (s.drop name.length)
          pure (.variable (String.ofList name))
        else throw .noOperand

end

def Expression.read (s : List Char) : Except Mistake Expression := do
  let (e, rest) ← (do
    let e ← whole (32 * (s.length + 2))
    blanks
    pure e : Reading Expression).run s
  if rest.isEmpty then pure e else throw .leftOver

/-- The values of variables: those that have been set, over those that there are. -/
structure Valuation where
  known : String → Except Mistake Int
  set : List (String × Int)

def Valuation.get (v : Valuation) (name : String) : Except Mistake Int :=
  match v.set.lookup name with
  | some n => .ok n
  | none => v.known name

def Expression.value (v : Valuation) : Expression → Except Mistake (Int × Valuation)
  | .number n => .ok (n, v)
  | .variable name => (v.get name).map (·, v)
  | .negative a => do
    let (x, v) ← a.value v
    pure (wrap (-x), v)
  | .complement a => do
    let (x, v) ← a.value v
    pure (wrap (-x - 1), v)
  | .not a => do
    let (x, v) ← a.value v
    pure (ofBool (x = 0), v)
  | .binary op a b => do
    let (x, v) ← a.value v
    let (y, v) ← b.value v
    match op.apply x y with
    | some z => pure (z, v)
    | none => throw .divisionByZero
  | .both a b => do
    let (x, v) ← a.value v
    if x = 0 then pure (0, v)
    else
      let (y, v) ← b.value v
      pure (ofBool (y ≠ 0), v)
  | .either a b => do
    let (x, v) ← a.value v
    if x ≠ 0 then pure (1, v)
    else
      let (y, v) ← b.value v
      pure (ofBool (y ≠ 0), v)
  | .choose test yes no => do
    let (x, v) ← test.value v
    if x ≠ 0 then yes.value v else no.value v
  | .assign name a => do
    let (x, v) ← a.value v
    pure (x, ⟨v.known, (name, x) :: v.set⟩)

/-- The value of a text, and the variables that it sets, the last one first. -/
def evaluate (known : String → Except Mistake Int) (s : List Char) :
    Except Mistake (Int × List (String × Int)) := do
  let e ← Expression.read s
  let (n, v) ← e.value ⟨known, []⟩
  pure (n, v.set)

@[simp] theorem value_number (v : Valuation) (n : Int) :
    (Expression.number n).value v = .ok (n, v) := rfl

end Typeset.Shell.Arithmetic
