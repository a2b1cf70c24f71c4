import Typeset.Host
import Typeset.Number.TimeLimit
import Typeset.Shell.Interpreter
import Typeset.SystemError
import Typeset.Text.Literal
import Typeset.Text.Newline

/-!
Commands on a host. A command is checked, then started, then awaited up to its time limit. Its output
is kept as bytes; a status below zero tells the signal that ended it.
-/

namespace Typeset

open Text Utf8

structure Invocation where
  command : List String
  directory : Option String
  environment : Variables
  deriving DecidableEq

/-- What is left of a process: the files of the host, its output, its status, and how many
milliseconds went by until its streams were closed; no time if they never are. -/
structure Execution where
  files : FileSystem
  output : Bytes
  errors : Bytes
  status : Int
  time : Option Nat

inductive StartError
  | fault (f : Fault)
  | system (e : Errno) (path : String)
  deriving DecidableEq

namespace Execution

def startTime : Nat := 1

def firstProcess : Nat × Nat := (4711, 4710)

/-- What the first process finds: files, and two streams for its output. -/
def scene (fs : FileSystem) : Shell.Scene :=
  { files := fs
    clock := 0
    streams := []
    sources := []
    unused := 3
    jobs := []
    holds := []
    nextPid := firstProcess.1 + 1
    sent := []
    steps := Shell.Scene.usualSteps }

/-- The machine of a process that has just been started. -/
def machine (fs : FileSystem) (dir : Location) : Shell.Machine :=
  { scene := scene fs
    directory := dir
    path := Shell.Directory.pathOf dir
    mask := 0o022
    pid := firstProcess.1
    ancestors := [firstProcess.2]
    level := 0
    job := 0
    name := ""
    arguments := []
    values := .empty
    exported := []
    readOnly := []
    shadows := []
    functions := []
    aliases := []
    found := []
    status := 0
    kept := none
    taken := 0
    descriptors := [(0, .nowhere), (1, .stream 1), (2, .stream 2)]
    line := 0
    command := none
    options := []
    traps := []
    pending := []
    children := []
    lastChild := none
    loops := 0
    calls := 0
    optionIndex := 1
    optionOffset := 0
    lost := false }

/-- The status that a process ends with: the last byte of that of its shell, or the signal. -/
def statusOf (m : Shell.Machine) : Except Shell.Flow Unit → Int
  | .error (.killed s) => -(s : Int)
  | .error (.exit n) => (n % 256 : Nat)
  | .error (.return n) => (n % 256 : Nat)
  | _ => (m.status % 256 : Nat)

def octets (env : Variables) : Variables :=
  ⟨env.pairs.map fun p => (Shell.Octets.ofText p.1, Shell.Octets.ofText p.2)⟩

def ofProgram (fs : FileSystem) (dir : Location) (env : Variables) (p : Program) : Execution :=
  let p := Shell.Meaning.inOctets p []
  let act := Shell.Interpreter.runProgram true Shell.Interpreter.bound p (octets env)
  let (r, m) := (act.run.run (machine fs dir) : Id _)
  { files := m.scene.files
    output := m.scene.collected 1
    errors := m.scene.collected 2
    status := statusOf m r
    time := match r with
      | .error .endless => none
      | _ => some (m.scene.closing [1, 2] + startTime) }

/-- Whether the time of an execution is up before its streams are closed. -/
def exceeds (x : Execution) (limit : Nat) : Bool := x.time.all (limit ≤ ·)

end Execution

namespace Invocation

def isPassable (s : String) : Bool := '\x00' ∉ s.toList

/-- What makes an invocation a fault before anything is started. -/
def fault? (v : Invocation) : Option Fault :=
  if v.command = [] then some .emptyCommand
  else if v.environment.pairs.any fun p => '=' ∈ p.1.toList then some .nul
  else if (v.command ++ v.directory.toList ++
      v.environment.pairs.flatMap fun p => [p.1, p.2]).all isPassable then none
  else some .nul

def startDirectory (v : Invocation) (h : Host) : Except StartError Location :=
  match v.directory with
  | none => .ok h.workingDirectory
  | some path =>
    match h.files.locate h.workingDirectory path with
    | .ok loc =>
      if h.files.hasDirectory loc then .ok loc else .error (.system .notDirectory path)
    | .error .nul => .error (.fault .nul)
    | .error (.system e) => .error (.system e path)

def start (v : Invocation) (h : Host) : Except StartError Execution := do
  if let some f := v.fault? then throw (.fault f)
  let dir ← v.startDirectory h
  let name := v.command.headD ""
  let path := (v.environment.get? "PATH").getD Host.defaultSearchPath
  let p ← (Program.ofCommand h.files dir path name (v.command.drop 1)).mapError (.system · name)
  pure (.ofProgram h.files dir v.environment p)

end Invocation

/-- A command that has been run to its end, with its output as text. -/
structure CommandResult where
  command : List String
  status : Int
  output : String
  errors : String
  deriving DecidableEq

inductive CommandError
  | start (e : StartError)
  | timedOut (command : List String) (limit : Number)
  deriving DecidableEq

namespace CommandError

def timeoutMessage (command : List String) (limit : Number) : String :=
  "Command '" ++ Literal.ofList command ++ "' timed out after " ++ limit.toText ++ " seconds"

end CommandError

namespace Host

def outputText (bs : Bytes) : String := String.ofList (unifyNewlines (decode bs))

/-- Runs a command in the working directory, and tells what is left of it. -/
def run (h : Host) (command : List String) (env : Variables) (limit : Option Number) :
    Except CommandError (CommandResult × Host) := do
  let x ← (Invocation.start ⟨command, none, env⟩ h).mapError .start
  if let some limit := limit then
    let milliseconds ← limit.milliseconds.mapError fun f => .start (.fault f)
    if x.exceeds milliseconds then throw (.timedOut command limit)
  pure (⟨command, x.status, outputText x.output, outputText x.errors⟩, { h with files := x.files })

end Host
end Typeset
