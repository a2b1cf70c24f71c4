import Typeset.Plan
import Typeset.Runner.Reading
import Typeset.Termination

/-!
The runner: it starts one child after the other and owns all the processes of a child until that has
ended. Whatever interrupts a run, the child and all that it started are terminated before the run
ends, and the runner then holds no child.
-/

namespace Typeset

open Text.Utf8

/-- How a child is started: with pipes for both of its streams and nothing to read, as the leader of a
process group of its own. -/
structure Spawn where
  command : List String
  workingDirectory : PosixPath
  environment : Variables
  deriving DecidableEq

/-- How the end of a child comes to be known to a run. -/
structure Watch where
  /-- A wait that begins before the end of the child was noticed lasts until its streams have ended too. -/
  awaitsStreams : Bool
  /-- A stream that is no longer read keeps bytes back, and does not end. -/
  holdsBack : Bool
  /-- Whoever terminates the child collects its status, and leaves none to the run. -/
  overtaken : Bool
  deriving DecidableEq

/-- The end of a child is noticed at once, and by nobody else. -/
def Watch.prompt : Watch := ⟨false, false, false⟩

/-- A child: what arrives from it until its streams end or stay silent, and how it ends. One that
hangs does not end by itself; one that has exited may still leave its streams open to others. -/
structure Child where
  pid : Pid
  arrivals : List (Channel × Bytes)
  status : Int
  exited : Bool
  hangs : Bool
  /-- Who keeps the streams of a child that hangs open, besides the child and what is left of its group. -/
  holders : List Pid := []
  watch : Watch := .prompt
  deriving DecidableEq

/-- What became of an attempt to start a child. -/
inductive Launch
  | refused (e : SystemError)
  | broken (f : Fault)
  | started (c : Child)
  deriving DecidableEq

namespace Child

def ending (pid : Pid) (arrivals : List (Channel × Bytes)) (status : Int) : Child where
  pid := pid
  arrivals := arrivals
  status := status
  exited := false
  hangs := false

def pieceSize : Nat := 4096

def arrivalsOf (output errors : List Bytes) : List (Channel × Bytes) :=
  (Relay.pieces pieceSize output).map (.output, ·) ++
    (Relay.pieces pieceSize errors).map (.error, ·)

def isOpen (c : Child) (t : ProcessTable) : Bool :=
  c.hangs && ((if c.exited then t.hasGroup c.pid else t.isAlive c.pid) || c.holders.any t.isAlive)

def isRunning (c : Child) (t : ProcessTable) : Bool := c.hangs && !c.exited && t.isAlive c.pid

/-- Whether a wait for the child lasts on account of its streams, when the child itself has ended. -/
def lingers (c : Child) (t : ProcessTable) : Bool :=
  c.watch.awaitsStreams && !c.exited && (c.watch.holdsBack || c.isOpen t)

/-- Whether a wait for the child that begins now goes on for ever. -/
def isAwaited (c : Child) (t : ProcessTable) : Bool := c.isRunning t || c.lingers t

/-- What stands for a status that somebody else has collected. -/
def unknownStatus : Int := 255

/-- The status of the child once its streams have ended; that of a child ended by a signal is below
zero. -/
def statusIn (c : Child) (t : ProcessTable) : Int :=
  if c.exited || !c.hangs then c.status
  else match (t.row? c.pid).bind (·.death) with
    | some s => if c.watch.overtaken then unknownStatus else -(s.number : Int)
    | none => c.status

def stop (c : Child) (t : ProcessTable) (limit : Number) : Termination.Outcome :=
  if c.exited then Termination.terminateGroup t c.pid limit
  else Termination.terminateTree t c.pid limit true

end Child

/-- What interrupts a run: while the child is silent, or when so many pieces have arrived and no
stream has ended. -/
inductive Interruption
  | cancel
  | terminate
  | cancelAfter (pieces : Nat)
  deriving DecidableEq

inductive Raised
  | cancelled
  | listenerFailed (channel : Channel) (exception : String)
  | accessDenied
  deriving DecidableEq

inductive Conclusion
  | exited (status : Int)
  | failed (f : Failure)
  | broken (f : Fault)
  | raised (r : Raised)
  /-- The child is still running and nothing interrupts it, or its end is awaited in vain. -/
  | waiting
  deriving DecidableEq

/-- A runner with its environment, its patience in terminating, and its running child. -/
structure Runner where
  environment : Variables
  patience : Number
  child : Option Child
  deriving DecidableEq

/-- A run seen from the outside. -/
structure Run where
  runner : Runner
  table : ProcessTable
  events : List Termination.Event
  reading : Reading
  pid : Option Pid
  signalled : Option Nat
  conclusion : Conclusion
  deriving DecidableEq

namespace Runner

def defaultPatience : Number := .real (.ofDecimal false 3 0)

def ofEnvironment (environment : Variables) (patience : Number) : Runner :=
  ⟨environment, patience, none⟩

def pid (r : Runner) : Option Pid := r.child.map (·.pid)

def mergedEnvironment (r : Runner) (top : Variables) : Variables := r.environment.overlay top

def spawn (r : Runner) (p : Plan) : Spawn :=
  ⟨p.command, p.workingDirectory, r.mergedEnvironment p.environment⟩

def terminate (r : Runner) (t : ProcessTable) : Termination.Outcome :=
  match r.child with
  | none => ⟨t, [], some 0⟩
  | some c => c.stop t r.patience

/-- The end of a run in which the child is stopped on account of `cause`. The child is awaited before
that is raised, so a child that outlives its termination keeps the run waiting, and so may one whose
streams do not end with it. -/
def abandon (r : Runner) (c : Child) (t : ProcessTable) (reading : Reading) (cause : Raised) : Run :=
  let stopped := c.stop t r.patience
  let reading := if cause = .cancelled ∨ stopped.count.isNone ∨ c.isOpen stopped.table then reading
    else reading.finishBoth
  if stopped.count.isNone then
    ⟨{ r with child := none }, stopped.table, stopped.events, reading, r.pid, none,
      .raised .accessDenied⟩
  else if c.isAwaited stopped.table then
    ⟨r, stopped.table, stopped.events, reading, r.pid, none, .waiting⟩
  else
    ⟨{ r with child := none }, stopped.table, stopped.events, reading, r.pid, none, .raised cause⟩

def conclude (r : Runner) (c : Child) (t : ProcessTable) (reading : Reading) : Run :=
  let reading := reading.finishBoth
  match reading.raised with
  | some (ch, e) => r.abandon c t reading (.listenerFailed ch e)
  | none => ⟨{ r with child := none }, t, [], reading, r.pid, none, .exited (c.statusIn t)⟩

def interrupted (r : Runner) (c : Child) (t : ProcessTable) (reading : Reading) :
    Option Interruption → Run
  | none | some (.cancelAfter _) => ⟨r, t, [], reading, r.pid, none, .waiting⟩
  | some .cancel => r.abandon c t reading .cancelled
  | some .terminate =>
    let stopped := r.terminate t
    if c.isOpen stopped.table then
      ⟨r, stopped.table, stopped.events, reading, r.pid, stopped.count, .waiting⟩
    else
      let run := r.conclude c stopped.table reading
      { run with events := stopped.events ++ run.events, signalled := stopped.count }

def cutShort (r : Runner) (c : Child) (t : ProcessTable) (reading : Reading) : Run :=
  r.abandon c t reading (reading.raised.elim .cancelled fun p => .listenerFailed p.1 p.2)

def settle (r : Runner) (c : Child) (t : ProcessTable) (reading : Reading)
    (interruption : Option Interruption) : Run :=
  if !c.isOpen t then r.conclude c t reading
  else match reading.raised with
    | some (ch, e) => r.abandon c t reading (.listenerFailed ch e)
    | none => r.interrupted c t reading interruption

/-- How many pieces a run takes before it is cancelled; none if it is not cancelled before its child
is silent. -/
def cutAfter? (c : Child) : Option Interruption → Option Nat
  | some (.cancelAfter n) => if n ≤ c.arrivals.length then some n else none
  | _ => none

def supervise (r : Runner) (c : Child) (t : ProcessTable) (listeners : Listeners)
    (interruption : Option Interruption) : Run :=
  let running := { r with child := some c }
  let start := Reading.ofListeners listeners
  match cutAfter? c interruption with
  | some n => running.cutShort c t (start.receiveAll (c.arrivals.take n))
  | none => running.settle c t (start.receiveAll c.arrivals) interruption

def run (r : Runner) (p : Plan) (launch : Launch) (t : ProcessTable) (listeners : Listeners)
    (interruption : Option Interruption) : Run :=
  let ended := fun conclusion =>
    Run.mk r t [] (Reading.ofListeners listeners) r.pid none conclusion
  match launch with
  | .refused e => ended (.failed (.launch p.executable.toText e.reason))
  | .broken f => ended (.broken f)
  | .started c => r.supervise c t listeners interruption

@[simp] theorem pid_ofEnvironment (e : Variables) (n : Number) : (ofEnvironment e n).pid = none := rfl

@[simp] theorem terminate_of_no_child {r : Runner} (h : r.child = none) (t : ProcessTable) :
    r.terminate t = ⟨t, [], some 0⟩ := by
  simp [terminate, h]

@[simp] theorem environment_spawn (r : Runner) (p : Plan) :
    (r.spawn p).environment = r.environment.overlay p.environment := rfl

end Runner
end Typeset
