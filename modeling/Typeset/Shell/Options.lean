/-!
Options in front of the words of a command: letters behind a dash, some of which have a value, given in the
same word or in the next one. Two dashes end them.
-/

namespace Typeset.Shell.Options

abbrev Known := List (Char × Bool)

abbrev Found := List (Char × String)

/-- The options among letters; the last of them may wait for a value in the next word. -/
def inWord (known : Known) : List Char → Except String (Found × Option Char)
  | [] => .ok ([], none)
  | c :: cs =>
    match known.lookup c with
    | none => .error ("Illegal option -" ++ String.singleton c)
    | some true => .ok (if cs.isEmpty then ([], some c) else ([(c, String.ofList cs)], none))
    | some false => (inWord known cs).map fun r => ((c, "") :: r.1, r.2)

def read (known : Known) : List String → Except String (Found × List String)
  | [] => .ok ([], [])
  | w :: ws =>
    match w.toList with
    | ['-', '-'] => .ok ([], ws)
    | '-' :: c :: cs => do
      let (found, due) ← inWord known (c :: cs)
      match due, ws with
      | none, ws =>
        let (more, rest) ← read known ws
        pure (found ++ more, rest)
      | some c, [] => throw ("No arg for -" ++ String.singleton c ++ " option")
      | some c, value :: ws =>
        let (more, rest) ← read known ws
        pure (found ++ (c, value) :: more, rest)
    | _ => .ok ([], w :: ws)

def plain (letters : List Char) : Known := letters.map (·, false)

@[simp] theorem read_nil (known : Known) : read known [] = .ok ([], []) := rfl

end Typeset.Shell.Options
