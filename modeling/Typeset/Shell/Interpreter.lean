import Typeset.Shell.Meaning
import Typeset.Shell.Opening
import Typeset.Shell.Arithmetic
import Typeset.Shell.Expansion
import Typeset.Shell.Tool

/-!
The interpreter: scripts are run on a machine, and the programs that they call are run in processes of
their own. Nested steps are limited by a bound, and all steps together by what the scene allows; a script
that exceeds either counts as one that does not come to an end.
-/

namespace Typeset.Shell.Interpreter

open Text Utf8 Act

/-- Nested steps that a script may take. -/
def bound : Nat := 1000000

/-- Functions that may be called inside one another. -/
def callLimit : Nat := 1000

/-- The variables that a shell begins with, those that programs of it get, and its arguments. -/
def beginShell (m : Machine) : Machine :=
  let known : Variables := ⟨m.values.pairs.filter fun p => isName p.1.toList⟩
  let start := Variables.ofList [("PATH", Meaning.usualSearchPath), ("PS1", "$ "), ("PS2", "> "), ("PS4", "+ ")]
  let path := match (known.get? "PWD").filter (·.startsWith "/") with
    | some p => if Directory.location? m p = some m.directory then p else Directory.pathOf m.directory
    | none => Directory.pathOf m.directory
  let values := ((start.overlay known).set "IFS" " \t\n").set "OPTIND" "1"
  let values := (values.set "PPID" (toString (m.ancestors.headD 1))).set "PWD" path
  { m with
    values := values
    exported := "PWD" :: known.pairs.map (·.1)
    path := path
    line := 0 }

/-- The variables in front of the command of `env`, over those that there are. -/
def envVariables (env : Variables) : List String → Variables × List String
  | [] => (env, [])
  | w :: ws =>
    if w = "-i" ∨ w = "-" then envVariables .empty ws
    else if w = "--" then (env, ws)
    else match Declaration.nameAndValue w with
      | (name, some v) => envVariables (env.set name v) ws
      | _ => (env, w :: ws)

def failing (tested : Bool) : Act Unit := do
  let m ← get
  if m.hasOption 'e' ∧ !tested ∧ m.status ≠ 0 then throw (.exit m.status)

def inLoop (act : Act Unit) : Act Unit := do
  let loops := (← get).loops
  modify fun m => { m with loops := loops + 1 }
  let flow ← flowOf act
  modify fun m => { m with loops := loops }
  resume flow

def step : Act Unit := do
  if (← get).scene.steps = 0 then throw .endless
  modifyScene fun s => { s with steps := s.steps - 1 }

/-- A command that is given as words: those behind the words of `command` that can be passed over, whether
there were some, and whether the usual tools are meant. -/
structure Called where
  words : List String
  direct : Bool
  usual : Bool

/-- What words call. The options of `command` can be passed over only if they ask for nothing else. -/
def called : (fuel : Nat) → Called → Called
  | 0, c => c
  | fuel + 1, c =>
    match c.words with
    | "command" :: rest =>
      match Options.read (Options.plain ['p']) rest with
      | .ok (found, name :: words) => called fuel ⟨name :: words, true, c.usual || !found.isEmpty⟩
      | _ => c
    | _ => c

def assigns (m : Machine) (words : List String) : Bool :=
  let c := called words.length ⟨words, false, false⟩
  match c.words with
  | [] => false
  | name :: _ => Builtin.takesAssignments name && (c.direct || (m.functions.lookup name).isNone)

/-- Whether nothing but quotes stands around all arguments, which then may be none. -/
def standsAlone : List Piece → Bool
  | .literal [] true :: .parameter "@" .value _ true :: rest =>
    match rest with
    | [] => true
    | .literal _ _ :: _ => true
    | .parameter _ _ _ quoted :: _ => !quoted
    | .output _ quoted :: _ => !quoted
    | .arithmetic _ quoted :: _ => !quoted
  | _ => false

mutual

/-- Expands a word. With `splits`, it may become more than one. -/
def expand (splits : Bool) : (fuel : Nat) → List Piece → Act (List Atom)
  | 0, _ => throw .endless
  | _, [] => pure []
  | fuel + 1, p :: ps => do
    if standsAlone (p :: ps) then expand splits fuel ps
    else
      let a ← expandPiece splits fuel p
      pure (a ++ (← expand splits fuel ps))

def expandPiece (splits : Bool) : (fuel : Nat) → Piece → Act (List Atom)
  | 0, _ => throw .endless
  | _, .literal text quoted => pure (Expansion.ofLiteral text quoted)
  | fuel + 1, .output body quoted => do
    let text ← outputOf fuel body
    pure (Expansion.ofValue text quoted)
  | fuel + 1, .arithmetic expression quoted => do
    let text := Expansion.characters (← expand false fuel expression)
    match Arithmetic.evaluate (Expansion.integer (← get)) text with
    | .ok (n, changed) =>
      changed.reverse.forM fun p => assign p.1 (toString p.2)
      pure (Expansion.ofValue (toString n).toList quoted)
    | .error e => fail (e.message (String.ofList text))
  | fuel + 1, .parameter name form word quoted => do
    let m ← get
    let v := Expansion.value? m name
    let value : Act (List Atom) := do
      let m ← get
      if name = "@" ∨ name = "*" then pure (Expansion.ofArguments m name quoted splits)
      else pure (Expansion.ofValue ((Expansion.value? m name).getD "").toList quoted)
    let inner : Act (List Atom) := do
      let m ← get
      expand splits fuel
        (if quoted then word else Expansion.tildes m false true (word.length + 1) word)
    let other : Act (List Atom) := do
      let as ← inner
      pure (if quoted then as else Expansion.asValue as)
    let counts (orEmpty : Bool) := v.any fun s => !(orEmpty && s = "")
    let demanded : Act Unit := do
      if v.isNone ∧ m.hasOption 'u' then fail (name ++ ": parameter not set")
    match form with
    | .value => do
      demanded
      value
    | .length => do
      demanded
      pure (Expansion.ofValue (toString (v.getD "").length).toList quoted)
    | .fallback orEmpty => if counts orEmpty then value else other
    | .replace orEmpty =>
      if counts orEmpty then other else pure (if quoted then [.present] else [])
    | .assign orEmpty =>
      if counts orEmpty then value
      else
        let text := Expansion.characters (← inner)
        checkName name
        assign name (String.ofList text)
        value
    | .demand orEmpty =>
      if counts orEmpty then value
      else
        let text := String.ofList (Expansion.characters (← inner))
        fail (name ++ ": " ++ if word.isEmpty then
          (if orEmpty then "parameter not set or null" else "parameter not set") else text)
    | .dropStart longest => do
      demanded
      let pattern := Expansion.symbols (← inner)
      pure (Expansion.ofValue (Pattern.dropStart longest pattern (v.getD "").toList) quoted)
    | .dropEnd longest => do
      demanded
      let pattern := Expansion.symbols (← inner)
      pure (Expansion.ofValue (Pattern.dropEnd longest pattern (v.getD "").toList) quoted)
    | .invalid => fail "Bad substitution"

def outputOf : (fuel : Nat) → Script → Act (List Char)
  | 0, _ => throw .endless
  | _, [] => pure []
  | fuel + 1, body => do
    let n := (← get).scene.unused
    modifyScene fun s => { s with unused := n + 1 }
    let status ←
      awaited (fun m => m.below.connect 1 (.stream n)) (finish fuel (runAll false fuel body))
    modify fun m => { m with taken := status }
    waitUntil ((← get).scene.closing [n])
    let bs := (← get).scene.collected n
    modifyScene (·.discard n)
    Signal.deliver
    pure (Expansion.dropLineEnds (Octets.ofBytes (bs.filter (· ≠ 0))))

/-- The words that rows of pieces stand for, behind those that have been found. -/
def expandWords (found : List String) : (fuel : Nat) → List (List Piece) → Act (List String)
  | 0, _ => throw .endless
  | _, [] => pure found
  | fuel + 1, w :: ws => do
    match if assigns (← get) found then Reader.assignmentOf [] w else none with
    | some (.mk name value) => do
      let text ← expandValue fuel value
      expandWords (found ++ [name ++ "=" ++ text]) fuel ws
    | none => do
      let as ← expand true fuel (Expansion.tildes (← get) false true (w.length + 1) w)
      let more := Expansion.words (← get) as
      expandWords (found ++ more) fuel ws

def expandText : (fuel : Nat) → List Piece → Act String
  | 0, _ => throw .endless
  | fuel + 1, w => do
    let w := Expansion.tildes (← get) false true (w.length + 1) w
    pure (String.ofList (Expansion.characters (← expand false fuel w)))

def expandValue : (fuel : Nat) → List Piece → Act String
  | 0, _ => throw .endless
  | fuel + 1, w => do
    let w := Expansion.tildes (← get) true true (w.length + 1) w
    pure (String.ofList (Expansion.characters (← expand false fuel w)))

/-- Sets variables, and tells them as words. In a scope of their own the old ones come back. -/
def assignAll (inScope exported : Bool) : (fuel : Nat) → List Assignment → Act (List String)
  | 0, _ => throw .endless
  | _, [] => pure []
  | fuel + 1, .mk name value :: rest => do
    let text ← expandValue fuel value
    if inScope then shadow name
    assign name text
    if exported then mark name
    pure ((name ++ "=" ++ text) :: (← assignAll inScope exported fuel rest))

def expandRedirections : (fuel : Nat) → List Redirection → Act (List Opening.Redirected)
  | 0, _ => throw .endless
  | _, [] => pure []
  | fuel + 1, .mk n d target :: rest => do
    let text ← match d with
      | .text => do pure (String.ofList (Expansion.characters (← expand false fuel target)))
      | _ => expandText fuel target
    if d = .duplicate then Opening.checkDescriptor text
    pure (⟨n, d, text⟩ :: (← expandRedirections fuel rest))

/-- Runs what a shell has to do up to its end, with the commands that are due then. -/
def finish : (fuel : Nat) → Act Unit → Act Unit
  | 0, _ => throw .endless
  | fuel + 1, act => do
    let flow ← flowOf act
    match flow with
    | some (.killed s) => throw (.killed s)
    | some .endless => throw .endless
    | _ =>
      let m ← get
      let status := match flow with
        | some (.exit n) => n
        | some (.return n) => n
        | _ => m.status
      match (m.traps.lookup 0).filter (· ≠ "") with
      | none => throw (.exit status)
      | some text =>
        set { m.untrap 0 with status := status, kept := some status, loops := 0 }
        match ← flowOf (do let _ ← runUnits false false fuel (.ofText text.toList m.aliases)) with
        | some .failed => throw (.exit (← get).status)
        | some (.exit n) => throw (.exit n)
        | some (.killed s) => throw (.killed s)
        | some .endless => throw .endless
        | _ => throw (.exit status)

/-- Runs a text unit by unit; the answer is whether there was any command in it. -/
def runUnits (tested told : Bool) : (fuel : Nat) → Source → Act Bool
  | 0, _ => throw .endless
  | fuel + 1, s => do
    let s := { s with aliases := (← get).aliases }
    match Reader.unit s with
    | .error flaw => do
      modify fun m => { m with line := flaw.line }
      fail ("Syntax error: " ++ flaw.mistake.message)
    | .ok none => pure false
    | .ok (some (body, rest)) => do
      if told ∧ (← get).hasOption 'v' then
        put 2 (String.ofList (s.rest.take (s.rest.length - rest.rest.length)))
      runAll tested fuel body
      let more ← runUnits tested told fuel rest
      pure (more || !body.isEmpty)

/-- Runs a program; with `inPlace`, in the place of the process that calls it. -/
def runProgram (inPlace : Bool) : (fuel : Nat) → Program → Variables → Act Unit
  | 0, _, _ => throw .endless
  | fuel + 1, p, env => do
    step
    modify fun m => m.program inPlace p.name p.arguments env
    match p.tool with
    | "sh" => runShell fuel p
    | "dash" => runShell fuel p
    | "bash" => runShell fuel p
    | "env" => runEnv fuel p.arguments env
    | tool =>
      match Tool.ofName? tool with
      | some act => act p.arguments
      | none => setStatus 0

def runShell : (fuel : Nat) → Program → Act Unit
  | 0, _ => throw .endless
  | fuel + 1, p => do
    modify beginShell
    let (rest, _, due) ← Declaration.switches true false (p.arguments.length + 1) p.arguments
    let m ← get
    let start (name : String) (arguments : List String) : Act Unit := do
      modify fun m => { m with name := name, arguments := arguments }
      Declaration.settleMonitor
    match due, rest with
    | true, [] => fail "-c requires an argument"
    | true, text :: rest => do
      start (rest.headD p.name) (rest.drop 1)
      finish fuel (do let _ ← runUnits false false fuel (.ofText text.toList []))
    | false, file :: rest => do
      if m.hasOption 's' then
        start p.name (file :: rest)
        runInput fuel
      else
        match m.scene.files.read m.directory (Octets.toText file) with
        | .ok bs => do
          start file rest
          finish fuel (do let _ ← runUnits false true fuel (.ofText (Octets.ofScript bs) []))
        | .error e => fail ("cannot open " ++ file ++ ": " ++ Opening.reason false e)
    | false, [] => do
      modify (·.switch true 's')
      Declaration.settleMonitor
      runInput fuel

def runInput : (fuel : Nat) → Act Unit
  | 0 => throw .endless
  | fuel + 1 => do
    let bs ← takeInput 0
    finish fuel (do let _ ← runUnits false true fuel (.ofText (Octets.ofScript bs) []))

def runEnv : (fuel : Nat) → List String → Variables → Act Unit
  | 0, _, _ => throw .endless
  | fuel + 1, ws, env => do
    let (env, ws) := envVariables env ws
    match ws with
    | [] => do
      modify fun m => { m with values := env }
      Tool.environment
    | name :: ws => do
      let m ← get
      let path := (env.get? "PATH").getD (Octets.ofText Host.defaultSearchPath)
      match Program.ofCommand m.scene.files m.directory (Octets.toText path) (Octets.toText name) [] with
      | .ok p => runProgram true fuel (Meaning.inOctets p ws) env
      | .error e => do
        if e = .execFormat ∧ '/' ∈ name.toList then
          runProgram true fuel ⟨"sh", "/bin/sh", name :: ws⟩ env
        else
          put 2 ("env: '" ++ name ++ "': " ++ e.reason ++ "\n")
          if Program.isMissing e ∧ ' ' ∈ name.toList then
            put 2 "env: use -[v]S to pass options in shebang lines\n"
          throw (.exit (if Program.isMissing e then 127 else 126))

/-- Starts the first of some files that can be executed; a file that the system does not execute is run by
the shell. -/
def runFirst (inPlace : Bool) (name : String) (words : List String) :
    (fuel : Nat) → (refusal : Errno) → List String → Act Unit
  | 0, _, _ => throw .endless
  | _, refusal, [] => do
    let m ← get
    let message := if Program.isMissing refusal then "not found" else refusal.reason
    if inPlace then
      warn (name ++ ": " ++ message)
      throw (.exit (Meaning.statusOf refusal))
    else
      set { m with command := none }
      warn (name ++ ": " ++ message)
      modify fun c => { c with command := m.command }
      setStatus (Meaning.statusOf refusal)
  | fuel + 1, refusal, file :: files => do
    let m ← get
    let start (p : Program) : Act Unit :=
      awaiting id (runProgram inPlace fuel p m.environment)
    let place := Octets.toText file
    match Program.ofPath m.scene.files m.directory Program.readerLimit place (Octets.toText name) [] with
    | .ok p => start (Meaning.inOctets p words)
    | .error .execFormat =>
      if Meaning.isScript m place then start ⟨"sh", "/bin/sh", file :: words⟩
      else runFirst inPlace name words fuel .execFormat files
    | .error e => runFirst inPlace name words fuel (if Program.isMissing e then refusal else e) files

/-- Runs a program that is no part of the shell. With `inPlace` it takes the place of the shell. -/
def runExternal (inPlace : Bool) (path : String) : (fuel : Nat) → List String → Act Unit
  | 0, _ => throw .endless
  | _, [] => pure ()
  | fuel + 1, name :: ws => do
    let m ← get
    if Meaning.isPath name then runFirst inPlace name ws fuel .noEntry [name]
    else
      let files := (Meaning.candidates name path).dropWhile fun c => !Meaning.isProgram m c
      match files with
      | file :: _ => do
        modify fun m => { m with found := file :: m.found.erase file }
        runFirst inPlace name ws fuel .noEntry files
      | [] => do
        warn (name ++ ": " ++ Meaning.absence m name path)
        setStatus 127

def replace : (fuel : Nat) → List String → Act Unit
  | 0, _ => throw .endless
  | _, [] => setStatus 0
  | fuel + 1, name :: ws => do
    let m ← get
    let files := if Meaning.isPath name then [name] else Meaning.candidates name (Meaning.searchPath m)
    let flow ← flowOf (runReplacing name ws fuel .noEntry files)
    modify fun m => { m with traps := [] }
    match flow with
    | none => do throw (.exit (← get).status)
    | some f => throw f

/-- Lets the first of some files that can be executed take the place of the shell. -/
def runReplacing (name : String) (words : List String) :
    (fuel : Nat) → (refusal : Errno) → List String → Act Unit
  | 0, _, _ => throw .endless
  | _, refusal, [] => do
    warn (name ++ ": " ++ (if Program.isMissing refusal then "not found" else refusal.reason))
    throw (.exit (Meaning.statusOf refusal))
  | fuel + 1, refusal, file :: files => do
    let m ← get
    let start (p : Program) : Act Unit := do
      let (status, signal) ← forked id (runProgram true fuel p m.environment)
      match signal with
      | some s => throw (.killed s)
      | none => setStatus status
    let place := Octets.toText file
    match Program.ofPath m.scene.files m.directory Program.readerLimit place (Octets.toText name) [] with
    | .ok p => start (Meaning.inOctets p words)
    | .error .execFormat =>
      if Meaning.isScript m place then start ⟨"sh", "/bin/sh", file :: words⟩
      else runReplacing name words fuel .execFormat files
    | .error e => runReplacing name words fuel (if Program.isMissing e then refusal else e) files

def call (tested : Bool) : (fuel : Nat) → Command → List String → Act Unit
  | 0, _, _ => throw .endless
  | fuel + 1, body, ws => do
    let m ← get
    if m.calls ≥ callLimit then
      fail ("Maximum function recursion depth (" ++ toString callLimit ++ ") reached")
    set { m with arguments := ws, loops := 0, calls := m.calls + 1, optionIndex := 1, optionOffset := 0 }
    let flow ← flowOf (runCommand tested fuel body)
    modify fun c => { c with
      arguments := m.arguments, loops := m.loops, calls := m.calls,
      optionIndex := m.optionIndex, optionOffset := m.optionOffset }
    match flow with
    | some (.return n) => setStatus n
    | flow => resume flow

def source : (fuel : Nat) → String → Act Unit
  | 0, _ => throw .endless
  | fuel + 1, name => do
    let m ← get
    let isFile (c : String) : Bool :=
      (m.scene.files.isFile m.directory (Octets.toText c)).toOption.getD false
    let file ← if Meaning.isPath name then pure name
      else match (Meaning.candidates name (Meaning.searchPath m)).find? isFile with
        | some c => pure c
        | none => fail (name ++ ": not found")
    match m.scene.files.read m.directory (Octets.toText file) with
    | .error e => fail ("cannot open " ++ file ++ ": " ++ Opening.reason false e)
    | .ok bs => do
      modify fun m => { m with command := some file }
      match ← flowOf (do
          if !(← runUnits false true fuel (.ofText (Octets.ofScript bs) m.aliases)) then setStatus 0) with
      | some (.return n) => setStatus n
      | flow => resume flow

def runBuiltin (tested : Bool) : (fuel : Nat) → (name : String) → List String → Act Unit
  | 0, _, _ => throw .endless
  | fuel + 1, name, ws => do
    match name, ws with
    | "eval", ws => do
      let aliases := (← get).aliases
      let text := (" ".intercalate ws).toList
      if !(← runUnits tested false fuel (.ofText text aliases)) then setStatus 0
    | ".", ws =>
      match Options.read [] ws with
      | .error e => fail e
      | .ok (_, []) => setStatus 0
      | .ok (_, file :: _) => source fuel file
    | "exec", ws => replace fuel ws
    | "type", ws => Meaning.type ws
    | "hash", ws => Meaning.hash ws
    | "command", ws =>
      match Options.read (Options.plain ['p', 'v', 'V']) ws with
      | .error e => fail e
      | .ok (found, names) =>
        let m ← get
        let path := if (found.lookup 'p').isSome then Meaning.usualSearchPath else Meaning.searchPath m
        let asked := (found.filter fun o => o.1 ≠ 'p').getLast?.map (·.1)
        match asked, names with
        | some 'V', name :: _ => do setStatus (if ← Meaning.describe name path then 0 else 127)
        | some _, name :: _ => do setStatus (if ← Meaning.identify name path then 0 else 127)
        | _, _ => setStatus 0
    | name, ws =>
      match Builtin.ofName? name with
      | some act => act ws
      | none => setStatus 0

/-- Runs a command of the shell; unless it is special, the shell goes on if it cannot. -/
def invoke (tested special : Bool) : (fuel : Nat) → (name : String) → List String → Act Unit
  | 0, _, _ => throw .endless
  | fuel + 1, name, ws => do
    let command := (← get).command
    modify fun m => { m with command := some name, lost := false }
    let flow ← flowOf (runBuiltin tested fuel name ws)
    if flow.isNone ∧ (← get).lost then
      warn (name ++ ": I/O error")
      modify fun m => { m with status := m.status ||| 1 }
    modify fun m => { m with command := command, lost := false }
    if flow ≠ some .failed ∨ special then resume flow

def trace (descriptors : List (Nat × Sink)) : (fuel : Nat) → List String → Act Unit
  | 0, _ => throw .endless
  | fuel + 1, words => do
    let m ← get
    if m.hasOption 'x' then
      set (m.switch false 'x')
      let sign ← expand false fuel (Reader.document ((m.values.get? "PS4").getD ""))
      modify fun c => { c.switch true 'x' with descriptors := descriptors }
      put 2 (String.ofList (Expansion.characters sign) ++ " ".intercalate words ++ "\n")
      modify fun c => { c with descriptors := m.descriptors }

/-- Carries out redirections; the answer is whether that was possible. -/
def redirect : (fuel : Nat) → List Redirection → Act Bool
  | 0, _ => throw .endless
  | fuel + 1, rs => do
    let rs ← expandRedirections fuel rs
    match ← flowOf (rs.forM Opening.perform) with
    | none => pure true
    | some .failed => pure false
    | some f => throw f

/-- Runs a simple command: its words are expanded first, then its redirections are carried out, and then
its variables are set. -/
def runSimple (tested : Bool) (as : List Assignment) (ws : List (List Piece)) (rs : List Redirection) :
    (fuel : Nat) → Act Unit
  | 0 => throw .endless
  | fuel + 1 => do
    modify fun m => { m with taken := 0 }
    let found ← expandWords [] fuel ws
    let before ← get
    match found with
    | [] =>
      Opening.restoring do
        if ← redirect fuel rs then
          let told ← assignAll false false fuel as
          trace before.descriptors fuel told
          modify fun m => { m with status := m.taken }
    | _ :: _ =>
      let c := called found.length ⟨found, false, false⟩
      let name := c.words.headD ""
      let function := if c.direct ∨ Meaning.isPath name then none else before.functions.lookup name
      let builtin := function.isNone && Builtin.isBuiltin name
      let special := builtin && !c.direct && name ∈ Reader.specialNames
      let replaces := builtin && name = "exec"
      let act : Act Unit := do
        if ← redirect fuel rs then
          if !special then openScope
          let told ← assignAll (!special) (!special || (replaces && c.words.length > 1)) fuel as
          trace before.descriptors fuel (told ++ c.words)
          match function with
          | some body => call tested fuel body (c.words.drop 1)
          | none =>
            if builtin then invoke tested special fuel name (c.words.drop 1)
            else
              let m ← get
              let path := if c.usual then Meaning.usualSearchPath else Meaning.searchPath m
              runExternal false path fuel c.words
        else if special then throw .failed
      let flow ← flowOf act
      if (← get).shadows.length > before.shadows.length then closeScope
      if !replaces then modify fun m => { m with descriptors := before.descriptors }
      resume flow

def runLoop (untilTrue tested : Bool) (test body : Script) : (fuel : Nat) → (status : Nat) → Act Unit
  | 0, _ => throw .endless
  | fuel + 1, status => do
    match ← flowOf (runAll true fuel test) with
    | some (.break n) => if n > 1 then throw (.break (n - 1)) else setStatus status
    | some (.continue n) =>
      if n > 1 then throw (.continue (n - 1)) else runLoop untilTrue tested test body fuel status
    | some f => throw f
    | none =>
      if ((← get).status = 0) = untilTrue then setStatus status
      else
        match ← flowOf (runAll tested fuel body) with
        | none => runLoop untilTrue tested test body fuel (← get).status
        | some (.break n) => if n > 1 then throw (.break (n - 1)) else setStatus 0
        | some (.continue n) =>
          if n > 1 then throw (.continue (n - 1))
          else runLoop untilTrue tested test body fuel (← get).status
        | some f => throw f

def runEach (tested : Bool) (name : String) (body : Script) : (fuel : Nat) → List String → Act Unit
  | 0, _ => throw .endless
  | _, [] => pure ()
  | fuel + 1, w :: ws => do
    assign name w
    match ← flowOf (runAll tested fuel body) with
    | none => runEach tested name body fuel ws
    | some (.break n) => if n > 1 then throw (.break (n - 1)) else setStatus 0
    | some (.continue n) =>
      if n > 1 then throw (.continue (n - 1)) else runEach tested name body fuel ws
    | some f => throw f

def runArms (tested : Bool) (text : List Char) : (fuel : Nat) → List Arm → Act Unit
  | 0, _ => throw .endless
  | _, [] => setStatus 0
  | fuel + 1, .mk patterns body :: rest => do
    if ← anyFits text fuel patterns then runBranch tested fuel body
    else runArms tested text fuel rest

def anyFits (text : List Char) : (fuel : Nat) → List (List Piece) → Act Bool
  | 0, _ => throw .endless
  | _, [] => pure false
  | fuel + 1, p :: ps => do
    let p := Expansion.tildes (← get) false true (p.length + 1) p
    let symbols := Expansion.symbols (← expand false fuel p)
    if Pattern.fitsAll symbols text then pure true else anyFits text fuel ps

/-- Runs the commands of a pipeline from the same time on, each with the output of the one before as its
input; `ends` tells when the last of those before ended. -/
def runPipeline (start ends : Nat) : (fuel : Nat) → List Command → Act Unit
  | 0, _ => throw .endless
  | _, [] => pure ()
  | fuel + 1, [c] => do
    modifyScene fun s => { s with clock := start }
    awaiting Machine.below (finish fuel (runCommand false fuel c))
    waitUntil ends
  | fuel + 1, c :: cs => do
    let n := (← get).scene.unused
    modifyScene fun s => { s with unused := n + 1, clock := start }
    let _ ← awaited (fun m => m.below.connect 1 (.stream n)) (finish fuel (runCommand false fuel c))
    let s := (← get).scene
    let given : Supply := ⟨s.collected n, s.closing [n]⟩
    modifyScene (·.discard n)
    modify (·.supply 0 given)
    runPipeline start (max ends s.clock) fuel cs

def runPending : (fuel : Nat) → Act Unit
  | 0 => throw .endless
  | fuel + 1 => do
    Signal.deliver
    let m ← get
    match m.pending.min? with
    | none => pure ()
    | some signal =>
      set { m with pending := m.pending.filter (· ≠ signal), kept := some (m.kept.getD m.status) }
      if let some text := m.traps.lookup signal then
        let _ ← runUnits false false fuel (.ofText text.toList m.aliases)
      modify fun c => { c with kept := m.kept, status := m.status }
      runPending fuel

/-- Runs a command. A failure of a command that is not tested may end the shell. -/
def runCommand (tested : Bool) : (fuel : Nat) → Command → Act Unit
  | 0, _ => throw .endless
  | fuel + 1, c => do
    step
    if !(← get).hasOption 'n' then runActive tested fuel c

def runActive (tested : Bool) : (fuel : Nat) → Command → Act Unit
  | 0, _ => throw .endless
  | fuel + 1, c => do
    let onLine (line : Nat) : Act Unit := modify fun m => { m with line := line }
    match c with
    | .simple line as ws rs =>
      onLine line
      runSimple tested as ws rs fuel
      runPending fuel
      failing tested
    | .redirected line (.subshell _ body) rs =>
      onLine line
      let rs ← expandRedirections fuel rs
      awaiting Machine.below (finish fuel (do
        rs.forM Opening.perform
        runAll tested fuel body))
      runPending fuel
      failing tested
    | .redirected line c rs =>
      onLine line
      Opening.restoring do
        if ← redirect fuel rs then runCommand tested fuel c
        else
          setStatus 2
          failing tested
    | .group body => runAll tested fuel body
    | .subshell line body =>
      onLine line
      awaiting Machine.below (finish fuel (runAll tested fuel body))
      runPending fuel
      failing tested
    | .choose test yes no =>
      runAll true fuel test
      if (← get).status = 0 then runBranch tested fuel yes else runBranch tested fuel no
    | .repeated untilTrue test body =>
      inLoop (runLoop untilTrue tested test body fuel 0)
    | .forEach line name words body =>
      onLine line
      let ws ← match words with
        | none => pure (← get).arguments
        | some ws => expandWords [] fuel ws
      setStatus 0
      inLoop (runEach tested name body fuel ws)
    | .select line word arms =>
      onLine line
      let text ← expandText fuel word
      runArms tested text.toList fuel arms
    | .pipeline parts =>
      let descriptors := (← get).descriptors
      let start := (← get).scene.clock
      runPipeline start start fuel parts
      modify fun m => { m with descriptors := descriptors }
      runPending fuel
      failing tested
    | .negated c =>
      runCommand true fuel c
      setStatus (if (← get).status = 0 then 1 else 0)
    | .both a b =>
      runCommand true fuel a
      if (← get).status = 0 then runCommand tested fuel b
    | .either a b =>
      runCommand true fuel a
      if (← get).status ≠ 0 then runCommand tested fuel b
    | .background c => launch fuel c
    | .define name body =>
      modify fun m => { m with
        functions := (name, body) :: m.functions.filter (·.1 ≠ name), status := 0 }

/-- Runs a command in the background: it runs ahead, and the clock is put back. -/
def launch : (fuel : Nat) → Command → Act Unit
  | 0, _ => throw .endless
  | fuel + 1, c => do
    let m ← get
    let pid := m.scene.nextPid
    modifyScene fun s => { s with nextPid := pid + 1 }
    let begin (m : Machine) : Machine :=
      let m := ((m.below.trap 2 "").trap 3 "").connect 0 .nowhere
      { m with job := pid }
    let (status, signal) ← forked begin (finish fuel (runCommand false fuel c))
    modifyScene fun s => { s with
      clock := m.scene.clock
      jobs := s.jobs ++ [⟨pid, status, signal, s.clock, false⟩] }
    modify fun c => { c with children := pid :: c.children, lastChild := some pid, status := 0 }

def runBranch (tested : Bool) : (fuel : Nat) → Script → Act Unit
  | 0, _ => throw .endless
  | _, [] => setStatus 0
  | fuel + 1, body => runAll tested fuel body

def runAll (tested : Bool) : (fuel : Nat) → Script → Act Unit
  | 0, _ => throw .endless
  | _, [] => pure ()
  | fuel + 1, c :: cs => do
    runCommand tested fuel c
    runAll tested fuel cs

end

end Typeset.Shell.Interpreter
