import Typeset.FileSystem.Change
import Typeset.Shell.Numeral
import Typeset.Shell.Octets
import Typeset.Shell.Script
import Typeset.Variables

/-!
The machine that runs scripts. All processes share a scene: files, a clock that only waiting moves on, the
streams that output is collected in, the sources that input comes from, and what runs in the background. Every
process has variables, descriptors and the state of a shell of its own.
-/

namespace Typeset.Shell

open Text.Utf8

/-- Where a descriptor leads. -/
inductive Sink
  | stream (n : Nat)
  | file (loc : Location)
  | source (n : Nat)
  | nowhere
  deriving DecidableEq

/-- A piece of output with the time at which it was written, and the job that wrote it. -/
structure Chunk where
  time : Nat
  job : Nat
  bytes : Bytes

/-- A process in the background: it has run ahead of the clock up to its end, which may have been a
signal, and may have been noticed. -/
structure Job where
  pid : Nat
  status : Nat
  signal : Option Nat
  ends : Nat
  noticed : Bool

/-- Bytes that can be read from a time on. -/
structure Supply where
  bytes : Bytes
  ready : Nat

/-- A stream that a job holds open up to a time. -/
structure Hold where
  stream : Nat
  job : Nat
  ends : Nat

/-- What all processes share. -/
structure Scene where
  files : FileSystem
  clock : Nat
  streams : List (Nat × List Chunk)
  sources : List (Nat × Supply)
  /-- The number of the next stream or source. -/
  unused : Nat
  jobs : List Job
  holds : List Hold
  nextPid : Nat
  /-- Signals on their way to processes. -/
  sent : List (Nat × Nat)
  /-- Commands that may still be run. -/
  steps : Nat

/-- What is put aside while a function has its own. -/
inductive Shadow
  /-- A variable, with its marks. -/
  | named (name : String) (value : Option String) (exported readOnly : Bool)
  /-- All the switches. -/
  | switches (options : List Char)

/-- A process. A trap tells what a signal leads to: a text of commands, of which an empty one is nothing at
all; the number zero stands for the end of the shell. Signals that are pending wait for the end of a
command. -/
structure Machine where
  scene : Scene
  directory : Location
  path : String
  mask : Nat
  pid : Nat
  ancestors : List Nat
  /-- How many processes deep it stands below the shell whose number it shares. -/
  level : Nat
  job : Nat
  name : String
  arguments : List String
  values : Variables
  exported : List String
  readOnly : List String
  shadows : List (List Shadow)
  functions : List (String × Command)
  aliases : List (String × String)
  /-- The programs that have been found on the search path. -/
  found : List String
  status : Nat
  /-- The status with which the shell is left while a trap is carried out. -/
  kept : Option Nat
  /-- The status of the last command whose output was taken. -/
  taken : Nat
  descriptors : List (Nat × Sink)
  line : Nat
  /-- The command of the shell that is carried out, for complaints. -/
  command : Option String
  options : List Char
  traps : List (Nat × String)
  pending : List Nat
  children : List Nat
  lastChild : Option Nat
  loops : Nat
  calls : Nat
  /-- The number of the argument from which on options are taken. -/
  optionIndex : Nat
  /-- How many letters have been taken of the argument in front of that. -/
  optionOffset : Nat
  /-- Whether output has been lost because its descriptor was closed. -/
  lost : Bool

/-- Why the flow of commands is left. -/
inductive Flow
  | exit (status : Nat)
  | killed (signal : Nat)
  | break (levels : Nat)
  | continue (levels : Nat)
  | return (status : Nat)
  /-- A command of the shell cannot go on. -/
  | failed
  /-- The script does not come to an end. -/
  | endless
  deriving DecidableEq

/-- What a process does: it changes the machine, and may leave the flow. -/
abbrev Act := ExceptT Flow (StateM Machine)

namespace Scene

/-- How many commands a script may run. -/
def usualSteps : Nat := 1000000

def collect (s : Scene) (n : Nat) (c : Chunk) : Scene :=
  { s with streams := (n, c :: (s.streams.lookup n).getD []) :: s.streams.filter (·.1 ≠ n) }

def collected (s : Scene) (n : Nat) : Bytes :=
  let chunks := ((s.streams.lookup n).getD []).reverse
  (chunks.mergeSort fun a b => a.time ≤ b.time).flatMap (·.bytes)

def discard (s : Scene) (n : Nat) : Scene :=
  { s with streams := s.streams.filter (·.1 ≠ n), sources := s.sources.filter (·.1 ≠ n) }

def feed (s : Scene) (n : Nat) (given : Supply) : Scene :=
  { s with sources := (n, given) :: s.sources.filter (·.1 ≠ n) }

/-- When the last of some streams is closed, if nobody opens them any more. -/
def closing (s : Scene) (streams : List Nat) : Nat :=
  ((s.holds.filter fun h => h.stream ∈ streams).map Hold.ends).foldl max s.clock

def advance (s : Scene) (time : Nat) : Scene := { s with clock := max s.clock time }

def notice (s : Scene) (pid : Nat) : Scene :=
  { s with jobs := s.jobs.map fun j => if j.pid = pid then { j with noticed := true } else j }

/-- Ends a job by a signal: nothing of what it would have written later is left. -/
def endJob (s : Scene) (pid signal : Nat) : Scene :=
  { s with
    jobs := s.jobs.map fun j =>
      if j.pid = pid ∧ s.clock < j.ends then
        { j with ends := s.clock, status := 128 + signal, signal := some signal }
      else j
    holds := s.holds.map fun h => if h.job = pid then { h with ends := min h.ends s.clock } else h
    streams := s.streams.map fun p =>
      (p.1, p.2.filter fun c => !(c.job = pid && s.clock < c.time)) }

end Scene

namespace Machine

/-- The place of a variable among those that programs get: a name is put in one of 39 rows by its bytes. -/
def row (name : String) : Nat :=
  let bytes := name.toList.map Char.toNat
  (16 * bytes.headD 0 + bytes.foldl (· + ·) 0) % 39

def environment (m : Machine) : Variables :=
  ⟨(m.values.pairs.filter fun p => p.1 ∈ m.exported).mergeSort fun p q => row p.1 ≤ row q.1⟩

def connect (m : Machine) (descriptor : Nat) (s : Sink) : Machine :=
  { m with descriptors := (descriptor, s) :: m.descriptors.filter (·.1 ≠ descriptor) }

def close (m : Machine) (descriptor : Nat) : Machine :=
  { m with descriptors := m.descriptors.filter (·.1 ≠ descriptor) }

def write (m : Machine) (descriptor : Nat) (bs : Bytes) : Machine :=
  match m.descriptors.lookup descriptor with
  | some (.stream n) => { m with scene := m.scene.collect n ⟨m.scene.clock, m.job, bs⟩ }
  | some (.file loc) => { m with scene := { m.scene with files := m.scene.files.extend loc bs } }
  | some .nowhere => m
  | _ => { m with lost := m.lost || (descriptor = 1 && !bs.isEmpty) }

def readable (m : Machine) (descriptor : Nat) : Supply :=
  match m.descriptors.lookup descriptor with
  | some (.source n) => (m.scene.sources.lookup n).getD ⟨[], 0⟩
  | _ => ⟨[], 0⟩

def leave (m : Machine) (descriptor : Nat) (bs : Bytes) : Machine :=
  match m.descriptors.lookup descriptor with
  | some (.source n) => { m with scene := m.scene.feed n ⟨bs, 0⟩ }
  | _ => m

def supply (m : Machine) (descriptor : Nat) (given : Supply) : Machine :=
  let n := m.scene.unused
  { m with scene := { m.scene.feed n given with unused := n + 1 } }.connect descriptor (.source n)

def below (m : Machine) : Machine :=
  { m with
    level := m.level + 1
    kept := none
    traps := m.traps.filter (·.2 = "")
    pending := []
    children := [] }

def program (m : Machine) (inPlace : Bool) (name : String) (arguments : List String) (env : Variables) :
    Machine :=
  let n := m.scene.nextPid
  { m with
    scene := { m.scene with nextPid := if inPlace then n else n + 1 }
    pid := if inPlace then m.pid else n
    ancestors := if inPlace then m.ancestors else m.pid :: m.ancestors
    level := 0
    name := name
    arguments := arguments
    values := env
    exported := env.pairs.map (·.1)
    readOnly := []
    shadows := []
    functions := []
    aliases := []
    found := []
    status := 0
    kept := none
    taken := 0
    line := 0
    command := none
    options := []
    traps := m.traps.filter (·.2 = "")
    pending := []
    children := []
    lastChild := none
    loops := 0
    calls := 0
    optionIndex := 1
    optionOffset := 0
    lost := false }

def hasOption (m : Machine) (c : Char) : Bool := c ∈ m.options

def switch (m : Machine) (on : Bool) (c : Char) : Machine :=
  { m with options := if on then (if c ∈ m.options then m.options else c :: m.options)
    else m.options.filter (· ≠ c) }

def trap (m : Machine) (signal : Nat) (text : String) : Machine :=
  { m with traps := (signal, text) :: m.traps.filter (·.1 ≠ signal) }

def untrap (m : Machine) (signal : Nat) : Machine :=
  { m with traps := m.traps.filter (·.1 ≠ signal) }

@[simp] theorem scene_connect (m : Machine) (n : Nat) (s : Sink) : (m.connect n s).scene = m.scene :=
  rfl

@[simp] theorem scene_below (m : Machine) : m.below.scene = m.scene := rfl

end Machine

namespace Act

def modifyScene (f : Scene → Scene) : Act Unit := modify fun m => { m with scene := f m.scene }

def files : Act FileSystem := do pure (← get).scene.files

def setFiles (fs : FileSystem) : Act Unit := modifyScene fun s => { s with files := fs }

def put (descriptor : Nat) (s : String) : Act Unit :=
  modify fun m => m.write descriptor (Octets.toBytes s.toList)

def emit (bs : Bytes) : Act Unit := modify fun m => m.write 1 bs

def setStatus (n : Nat) : Act Unit := modify fun m => { m with status := n }

def warn (message : String) : Act Unit := do
  let m ← get
  let command := m.command.elim "" (· ++ ": ")
  put 2 (m.name ++ ": " ++ toString m.line ++ ": " ++ command ++ message ++ "\n")

def fail {α : Type} (message : String) : Act α := do
  warn message
  setStatus 2
  throw .failed

def hold : Act Unit :=
  modify fun m =>
    let now := m.descriptors.filterMap fun d => match d.2 with
      | .stream n => some (Hold.mk n m.job m.scene.clock)
      | _ => none
    { m with scene := { m.scene with holds := now ++ m.scene.holds } }

def waitUntil (time : Nat) : Act Unit := do
  if (← get).scene.clock < time then
    modifyScene (·.advance time)
    hold

def wait (milliseconds : Nat) : Act Unit := do waitUntil ((← get).scene.clock + milliseconds)

def awaitInput (descriptor : Nat) : Act Bytes := do
  let given := (← get).readable descriptor
  waitUntil given.ready
  pure given.bytes

def takeInput (descriptor : Nat) : Act Bytes := do
  let bs ← awaitInput descriptor
  modify (·.leave descriptor [])
  pure bs

def number? (s : String) : Option Nat :=
  if s ≠ "" ∧ s.toList.all Char.isDigit then s.toNat? else none

/-- A number that a word writes and that is not negative, or else a complaint. -/
def natural (w : String) : Act Nat :=
  match Numeral.whole? (Numeral.readDecimal? w.toList) with
  | some n =>
    if 0 ≤ n ∧ n ≤ Int32.maxValue.toInt then pure n.toNat else fail ("Illegal number: " ++ w)
  | none => fail ("Illegal number: " ++ w)

def demandWritable (name : String) : Act Unit := do
  if name ∈ (← get).readOnly then fail (name ++ ": is read only")

def assign (name value : String) : Act Unit := do
  demandWritable name
  let m ← get
  let exported := if m.hasOption 'a' ∧ name ∉ m.exported then name :: m.exported else m.exported
  set { m with values := m.values.set name value, exported := exported }
  if name = "OPTIND" then
    let n ← natural value
    modify fun m => { m with optionIndex := max n 1, optionOffset := 0 }

def checkName (name : String) : Act Unit := do
  if !isName name.toList then fail (name ++ ": bad variable name")

def mark (name : String) : Act Unit :=
  modify fun m => { m with exported := if name ∈ m.exported then m.exported else name :: m.exported }

def protect (name : String) : Act Unit :=
  modify fun m => { m with readOnly := if name ∈ m.readOnly then m.readOnly else name :: m.readOnly }

def valueOf (name : String) : Act (Option String) := do pure ((← get).values.get? name)

/-- Begins a scope: variables that are put aside in it come back at its end. -/
def openScope : Act Unit := modify fun m => { m with shadows := [] :: m.shadows }

/-- Puts a variable aside up to the end of the scope; a dash stands for the switches. -/
def shadow (name : String) : Act Unit :=
  modify fun m =>
    match m.shadows with
    | [] => m
    | scope :: rest =>
      let s : Shadow :=
        if name = "-" then .switches m.options
        else .named name (m.values.get? name) (name ∈ m.exported) (name ∈ m.readOnly)
      { m with shadows := (s :: scope) :: rest }

def restore (m : Machine) : Shadow → Machine
  | .switches options => { m with options := options }
  | .named name value exported readOnly =>
    let mark (isMarked : Bool) (names : List String) : List String :=
      if !isMarked then names.filter (· ≠ name) else if name ∈ names then names else name :: names
    { m with
      values := match value with
        | some v => m.values.set name v
        | none => ⟨m.values.pairs.filter (·.1 ≠ name)⟩
      exported := mark exported m.exported
      readOnly := mark readOnly m.readOnly }

def closeScope : Act Unit :=
  modify fun m =>
    match m.shadows with
    | [] => m
    | scope :: rest => { scope.foldl restore m with shadows := rest }

def flowOf (act : Act Unit) : Act (Option Flow) := do
  match ← ExceptT.lift (ExceptT.run act) with
  | .ok () => pure none
  | .error f => pure (some f)

def resume : Option Flow → Act Unit
  | none => pure ()
  | some f => throw f

def obituaries : List (Nat × String) :=
  [(1, "Hangup"), (3, "Quit"), (4, "Illegal instruction"), (5, "Trace/breakpoint trap"), (6, "Aborted"),
    (7, "Bus error"), (8, "Floating point exception"), (9, "Killed"), (10, "User defined signal 1"),
    (11, "Segmentation fault"), (12, "User defined signal 2"), (14, "Alarm clock"), (15, "Terminated"),
    (16, "Stack fault"), (24, "CPU time limit exceeded"), (25, "File size limit exceeded"),
    (26, "Virtual timer expired"), (27, "Profiling timer expired"), (29, "I/O possible"),
    (30, "Power failure"), (31, "Bad system call")]

/-- Runs an action as a process of its own: of what it changes, only the scene stays. The answer is the last
byte of its status, and the signal that ended it, if one did. -/
def forked (begin : Machine → Machine) (act : Act Unit) : Act (Nat × Option Nat) := do
  let m ← get
  let (r, c) := (act.run.run (begin m) : Id _)
  set { m with scene := c.scene }
  match r with
  | .ok _ => pure (c.status % 256, none)
  | .error (.exit n) => pure (n % 256, none)
  | .error (.return n) => pure (n % 256, none)
  | .error (.killed s) => pure (128 + s, some s)
  | .error .endless => throw .endless
  | .error _ => pure (c.status % 256, none)

def bury (signal : Option Nat) : Act Unit := do
  if let some text := signal.bind (fun s => obituaries.lookup s) then put 2 (text ++ "\n")

def awaited (begin : Machine → Machine) (act : Act Unit) : Act Nat := do
  let before := (← get).scene.clock
  let (status, signal) ← forked begin act
  if before < (← get).scene.clock then hold
  bury signal
  pure status

def awaiting (begin : Machine → Machine) (act : Act Unit) : Act Unit := do
  setStatus (← awaited begin act)

end Act
end Typeset.Shell
