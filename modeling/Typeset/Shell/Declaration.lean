import Typeset.Shell.Signal

/-!
Commands that declare variables: which of them programs get, which must not be changed, which belong to a
function, and which there are no more.
-/

namespace Typeset.Shell.Declaration

open Act

def nameAndValue (w : String) : String × Option String :=
  match w.toList.dropWhile (· ≠ '=') with
  | [] => (w, none)
  | _ :: value => (String.ofList (w.toList.takeWhile (· ≠ '=')), some (String.ofList value))

def sortedNames (names : List String) : List String :=
  names.eraseDups.mergeSort fun a b => !(b < a)

def showAll (front : String) (names : List String) : Act Unit := do
  let m ← get
  (sortedNames names).forM fun name =>
    put 1 (front ++ name ++ ((m.values.get? name).elim "" fun v => "=" ++ Signal.quoted v) ++ "\n")

def declareOne (mark : String → Act Unit) (w : String) : Act Unit := do
  let (name, value) := nameAndValue w
  checkName name
  if let some v := value then assign name v
  mark name

/-- Declares variables, or writes those that have been declared so. -/
def declare (mark : String → Act Unit) (command : String) (marked : Machine → List String)
    (words : List String) : Act Unit := do
  match Options.read [('p', false)] words with
  | .error e => fail e
  | .ok (found, names) =>
    if found.isEmpty ∧ !names.isEmpty then names.forM (declareOne mark)
    else showAll (command ++ " ") (marked (← get))
    setStatus 0

/-- Declares variables of a function: the old ones come back at its end, and so do the switches if a dash is
among the words. -/
def declareLocal (words : List String) : Act Unit := do
  if (← get).shadows.isEmpty then fail "not in a function"
  words.forM fun w => do
    if w = "-" then shadow w
    else
      let (name, value) := nameAndValue w
      checkName name
      shadow name
      if let some v := value then assign name v
  setStatus 0

def forget (name : String) : Act Unit := do
  checkName name
  demandWritable name
  modify fun m => { m with
    values := ⟨m.values.pairs.filter (·.1 ≠ name)⟩
    exported := m.exported.filter (· ≠ name) }

def unset (words : List String) : Act Unit := do
  match Options.read (Options.plain ['v', 'f']) words with
  | .error e => fail e
  | .ok (found, names) =>
    if (found.getLast?.map (·.1)) = some 'f' then
      modify fun m => { m with functions := m.functions.filter fun f => f.1 ∉ names }
    else names.forM forget
    setStatus 0

/-- Switches of the shell by their names; a sign that is no letter stands where there is no letter. -/
def switchNames : List (String × Char) :=
  [("errexit", 'e'), ("noglob", 'f'), ("ignoreeof", 'I'), ("interactive", 'i'), ("monitor", 'm'),
    ("noexec", 'n'), ("stdin", 's'), ("xtrace", 'x'), ("verbose", 'v'), ("vi", 'V'), ("emacs", 'E'),
    ("noclobber", 'C'), ("allexport", 'a'), ("notify", 'b'), ("nounset", 'u'), ("privileged", 'p'),
    ("nolog", '1'), ("debug", '2')]

def showSwitches (forReading : Bool) : Act Unit := do
  let m ← get
  if forReading then put 1 "Current option settings\n"
  switchNames.forM fun p =>
    let on := m.hasOption p.2
    if forReading then
      let gap := String.ofList (List.replicate (16 - p.1.length) ' ')
      put 1 (p.1 ++ gap ++ (if on then "on" else "off") ++ "\n")
    else put 1 ("set " ++ (if on then "-o " else "+o ") ++ p.1 ++ "\n")

def switchNamed (on : Bool) (name : String) : Act Unit :=
  match switchNames.lookup name with
  | some c => modify (·.switch on c)
  | none => fail ("Illegal option -o " ++ name)

/-- Turns the switches of some letters on or off; a letter may take its name from the next word. The answer
is what is left of the words, and whether a command is due. -/
def switchLetters (atStart on : Bool) : List Char → List String → Act (List String × Bool)
  | [], words => pure (words, false)
  | c :: cs, words => do
    if c = 'o' then
      match words with
      | [] =>
        showSwitches on
        switchLetters atStart on cs []
      | name :: rest =>
        switchNamed on name
        switchLetters atStart on cs rest
    else if c = 'c' ∧ atStart then
      let (words, _) ← switchLetters atStart on cs words
      pure (words, true)
    else
      if c.isAlpha ∧ (switchNames.map (·.2)).contains c then modify (·.switch on c)
      else if !(c = 'l' ∧ atStart) then fail ("Illegal option -" ++ String.singleton c)
      switchLetters atStart on cs words

/-- Takes switches from the front of words: what follows them, whether two dashes or one ended them, and
whether a command is due. -/
def switches (atStart due : Bool) : (fuel : Nat) → List String → Act (List String × Bool × Bool)
  | 0, words => pure (words, false, due)
  | _, [] => pure ([], false, due)
  | fuel + 1, w :: ws => do
    match w.toList with
    | ['-'] =>
      if !atStart then modify fun m => (m.switch false 'x').switch false 'v'
      pure (ws, false, due)
    | ['-', '-'] => pure (ws, true, due)
    | '-' :: letters =>
      let (ws, command) ← switchLetters atStart true letters ws
      switches atStart (due || command) fuel ws
    | '+' :: letters =>
      let (ws, command) ← switchLetters atStart false letters ws
      switches atStart (due || command) fuel ws
    | _ => pure (w :: ws, false, due)

/-- Turns the control of jobs off again, since there is no terminal. -/
def settleMonitor : Act Unit := do
  if (← get).hasOption 'm' then
    modify (·.switch false 'm')
    warn "can't access tty; job control turned off"

def setArguments (words : List String) : Act Unit :=
  modify fun m => { m with arguments := words, optionIndex := 1, optionOffset := 0 }

def set (words : List String) : Act Unit := do
  if words.isEmpty then showAll "" ((← get).values.pairs.map (·.1))
  else
    let (rest, ended, _) ← switches false false (words.length + 1) words
    settleMonitor
    if ended ∨ !rest.isEmpty then setArguments rest
  setStatus 0

def shift (words : List String) : Act Unit := do
  let n ← match words with
    | [] => pure 1
    | w :: _ => natural w
  if (← get).arguments.length < n then fail "can't shift that many"
  setArguments ((← get).arguments.drop n)
  setStatus 0

def showAlias (p : String × String) : Act Unit := put 1 (p.1 ++ "=" ++ Signal.quoted p.2 ++ "\n")

/-- Sets aliases, or writes them; the answer is whether all are known. -/
def aliasAll : (known : Bool) → List String → Act Bool
  | known, [] => pure known
  | known, w :: ws => do
    -- an equals sign in front is a part of the name
    match nameAndValue (w.drop 1).toString with
    | (name, some value) =>
      let name := (w.take 1).toString ++ name
      modify fun m => { m with
        aliases := m.aliases.filter (·.1 ≠ name) ++ [(name, value)] }
      aliasAll known ws
    | (_, none) =>
      match (← get).aliases.lookup w with
      | some value => do
        showAlias (w, value)
        aliasAll known ws
      | none => do
        put 2 ("alias: " ++ w ++ " not found\n")
        aliasAll false ws

def declareAliases (words : List String) : Act Unit := do
  if words.isEmpty then
    ((← get).aliases.mergeSort fun p q => Machine.row p.1 ≤ Machine.row q.1).forM showAlias
    setStatus 0
  else setStatus (if ← aliasAll true words then 0 else 1)

def unaliasAll : (known : Bool) → List String → Act Bool
  | known, [] => pure known
  | known, w :: ws => do
    if ((← get).aliases.lookup w).isSome then
      modify fun m => { m with aliases := m.aliases.filter (·.1 ≠ w) }
      unaliasAll known ws
    else
      put 2 ("unalias: " ++ w ++ " not found\n")
      unaliasAll false ws

def forgetAliases (words : List String) : Act Unit := do
  match Options.read (Options.plain ['a']) words with
  | .error e => fail e
  | .ok ([], names) => setStatus (if ← unaliasAll true names then 0 else 1)
  | .ok (_, _) =>
    modify fun m => { m with aliases := [] }
    setStatus 0

end Typeset.Shell.Declaration
