import Typeset.Shell.Machine

/-!
Options that a script takes from its arguments one after the other. The place where the next one stands is
kept between the calls: an argument, and how many of its letters have been taken.
-/

namespace Typeset.Shell.NextOption

open Act

inductive Finding
  /-- There are no options any more. -/
  | none
  | option (c : Char) (value : Option String)
  | unknown (c : Char)
  | valueMissing (c : Char)

structure Step where
  finding : Finding
  index : Nat
  offset : Nat

/-- What a letter stands for among the letters that are known, if it is one of them: whether it has a
value. -/
def known? (c : Char) : List Char → Option Bool
  | [] => Option.none
  | d :: ':' :: rest => if c = d then some true else known? c rest
  | d :: rest => if c = d then some false else known? c rest

/-- The step at a letter, of which the argument with `index` is the next one behind its own. -/
def stepAt (letters : List Char) (arguments : List String) (index offset : Nat) (c : Char)
    (rest : List Char) : Step :=
  match known? c letters with
  | Option.none => ⟨.unknown c, index, offset + 1⟩
  | some false => ⟨.option c Option.none, index, offset + 1⟩
  | some true =>
    if !rest.isEmpty then ⟨.option c (some (String.ofList rest)), index, 0⟩
    else match arguments[index - 1]? with
      | some value => ⟨.option c (some value), index + 1, 0⟩
      | Option.none => ⟨.valueMissing c, index, offset + 1⟩

def step (letters : List Char) (arguments : List String) (index offset : Nat) : Step :=
  let current := if index ≤ 1 ∨ offset = 0 then [] else
    (((arguments[index - 2]?).getD "").toList).drop offset
  match current with
  | c :: rest => stepAt letters arguments index offset c rest
  | [] =>
    match (arguments[index - 1]?).map String.toList with
    | some ['-', '-'] => ⟨.none, index + 1, 0⟩
    | some ('-' :: c :: rest) => stepAt letters arguments (index + 1) 1 c rest
    | _ => ⟨.none, index, 0⟩

def forgetValue : Act Unit :=
  modify fun m => { m with values := ⟨m.values.pairs.filter (·.1 ≠ "OPTARG")⟩ }

/-- Takes the next option into a variable. A colon in front of the letters asks for silence. -/
def takeInto (letters : String) (name : String) (arguments : List String) : Act Unit := do
  let m ← get
  let silent := letters.startsWith ":"
  let s := step letters.toList arguments m.optionIndex m.optionOffset
  let refuse (c : Char) (silently : Char) (message : String) : Act Char := do
    if silent then
      assign "OPTARG" (String.singleton c)
      pure silently
    else
      put 2 (message ++ "\n")
      forgetValue
      pure '?'
  let sign ← match s.finding with
    | .none => pure '?'
    | .option c value => do
      assign "OPTARG" (value.getD "")
      pure c
    | .unknown c => refuse c '?' ("Illegal option -" ++ String.singleton c)
    | .valueMissing c => refuse c ':' ("No arg for -" ++ String.singleton c ++ " option")
  assign "OPTIND" (toString s.index)
  checkName name
  assign name (String.singleton sign)
  modify fun m => { m with optionIndex := s.index, optionOffset := s.offset }
  setStatus (match s.finding with
    | .none => 1
    | _ => 0)

def take : List String → Act Unit
  | [letters, name] => do takeInto letters name (← get).arguments
  | letters :: name :: words => takeInto letters name words
  | _ => fail "Usage: getopts optstring var [arg...]"

end Typeset.Shell.NextOption
