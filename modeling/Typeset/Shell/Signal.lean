import Typeset.Shell.Machine
import Typeset.Shell.Options

/-!
Signals: their names, what they do to a process that receives them, and the commands that send them, catch
them and wait for processes.
-/

namespace Typeset.Shell.Signal

open Act

def count : Nat := 65

/-- The names of the signals up to the first that has no usual meaning. -/
def usualNames : List String :=
  ["EXIT", "HUP", "INT", "QUIT", "ILL", "TRAP", "ABRT", "BUS", "FPE", "KILL", "USR1", "SEGV", "USR2",
    "PIPE", "ALRM", "TERM", "16", "CHLD", "CONT", "STOP", "TSTP", "TTIN", "TTOU", "URG", "XCPU",
    "XFSZ", "VTALRM", "PROF", "WINCH", "IO", "PWR", "SYS", "32", "33", "RTMIN"]

def name (n : Nat) : String :=
  match usualNames[n]? with
  | some s => s
  | none =>
    if n < 50 then "RTMIN+" ++ toString (n - 34)
    else if n < 64 then "RTMAX-" ++ toString (64 - n)
    else "RTMAX"

/-- The signal that is given by its number or by its name, in letters of either case; names count from the
signal `least` on. -/
def ofText? (least : Nat) (s : String) : Option Nat :=
  match (number? s).filter (· < count) with
  | some n => some n
  | none =>
    let named := s.toList.map Char.toUpper
    (List.range count).find? fun n => least ≤ n && (name n).toList == named

def isHarmless (n : Nat) : Bool := n ∈ [0, 17, 18, 23, 28]

def stops (n : Nat) : Bool := n ∈ [19, 20, 21, 22]

def receive (signal : Nat) : Act Unit := do
  let m ← get
  match if signal = 9 ∨ signal = 19 then none else m.traps.lookup signal with
  | some "" => pure ()
  | some _ => set { m with pending := m.pending ++ [signal] }
  | none =>
    if stops signal then throw .endless
    if !isHarmless signal then throw (.killed signal)

def deliver : Act Unit := do
  let m ← get
  if m.level = 0 then
    let mine := m.scene.sent.filter (·.1 = m.pid)
    if !mine.isEmpty then
      modifyScene fun s => { s with sent := s.sent.filter (·.1 ≠ m.pid) }
      mine.forM fun p => receive p.2

/-- Sends a signal to a process; the answer is whether there is such a process. -/
def send (signal pid : Nat) : Act Bool := do
  let m ← get
  if pid = m.pid ∧ m.level = 0 then
    receive signal
    pure true
  else if pid = m.pid ∨ pid ∈ m.ancestors then
    modifyScene fun s => { s with sent := s.sent ++ [(pid, signal)] }
    pure true
  else
    let isThere := m.scene.jobs.any fun j => j.pid = pid && (m.scene.clock < j.ends || !j.noticed)
    if isThere ∧ !isHarmless signal then modifyScene (·.endJob pid signal)
    pure isThere

/-- The process of a word: a number, or the place of a job behind a percent sign. -/
def process (w : String) : Act Nat := do
  match w.toList with
  | '%' :: place =>
    let children := (← get).children.reverse
    match (number? (String.ofList place)).bind fun n => if n = 0 then none else children[n - 1]? with
    | some pid => pure pid
    | none => fail ("No such job: " ++ w)
  | _ => natural w

def sendAll (signal : Nat) : (missing : Bool) → List String → Act Unit
  | missing, [] => setStatus (if missing then 1 else 0)
  | missing, w :: ws => do
    if ← send signal (← process w) then sendAll signal missing ws
    else
      warn "No such process\n"
      sendAll signal true ws

def usage : String :=
  "Usage: kill [-s sigspec | -signum | -sigspec] [pid | job]... or\nkill -l [exitstatus]"

def list : List String → Act Unit
  | [] => do
    put 1 "0\n"
    (List.range (count - 1)).forM fun n => put 1 (name (n + 1) ++ "\n")
    setStatus 0
  | w :: _ => do
    let n ← natural w
    let n := if 128 < n then n - 128 else n
    if n = 0 ∨ count ≤ n then fail ("invalid signal number or exit status: " ++ w)
    put 1 (name n ++ "\n")
    setStatus 0

def kill (words : List String) : Act Unit := do
  let direct := words.head?.bind fun w =>
    if w.startsWith "-" then ofText? 1 (w.drop 1).toString else none
  match direct with
  | some signal =>
    if words.length < 2 then fail usage
    sendAll signal false (words.drop 1)
  | none =>
    match Options.read [('l', false), ('s', true)] words with
    | .error e => fail e
    | .ok (found, rest) =>
      let lists := (found.lookup 'l').isSome
      let chosen := (found.reverse.lookup 's')
      let signal ← match chosen with
        | none => pure 15
        | some s =>
          match ofText? 1 s with
          | some n => pure n
          | none => fail ("invalid signal number or name: " ++ s)
      if lists ∧ chosen.isNone then list rest
      else if lists ∨ rest.isEmpty then fail usage
      else sendAll signal false rest

/-- A text in single quotes; single quotes in it stand between double ones. -/
def quoted (s : String) : String :=
  go s.toList.length s.toList
where
  /-- The text in pieces, of which each ends before a single quote that no other one precedes. -/
  go : Nat → List Char → String
    | 0, _ => "''"
    | fuel + 1, s =>
      let bare := s.takeWhile (· ≠ '\'')
      let rest := s.drop bare.length
      let quotes := rest.takeWhile (· = '\'')
      let behind := rest.drop quotes.length
      let first := "'" ++ String.ofList bare ++ "'"
      if quotes.isEmpty then first
      else
        let second := "\"" ++ String.ofList quotes ++ "\""
        if behind.isEmpty then first ++ second else first ++ second ++ go fuel behind

def trapAll (set : Nat → Machine → Machine) : List String → Act Unit
  | [] => setStatus 0
  | w :: rest =>
    match ofText? 0 w with
    | some n => do
      modify (set n)
      trapAll set rest
    | none => do
      put 2 ("trap: " ++ w ++ ": bad trap\n")
      setStatus 1

def showTraps : Act Unit := do
  let m ← get
  (List.range count).forM fun n =>
    match m.traps.lookup n with
    | some text => put 1 ("trap -- " ++ quoted text ++ " " ++ name n ++ "\n")
    | none => pure ()
  setStatus 0

def trap (words : List String) : Act Unit := do
  match Options.read [] words with
  | .error e => fail e
  | .ok (_, []) => showTraps
  | .ok (_, w :: ws) =>
    if ws.isEmpty ∨ (number? w).any (· < count) then trapAll (fun n m => m.untrap n) (w :: ws)
    else if w = "-" then trapAll (fun n m => m.untrap n) ws
    else trapAll (fun n m => m.trap n w) ws

/-- Waits for a process that runs in the background; the status tells how it ended. -/
def waitFor (pid : Nat) : Act (Option Nat) := do
  let m ← get
  match if pid ∈ m.children then m.scene.jobs.find? (·.pid = pid) else none with
  | some j =>
    waitUntil j.ends
    modifyScene (·.notice pid)
    bury j.signal
    pure (some j.status)
  | none => pure none

def waitEach : (status : Nat) → List String → Act Unit
  | status, [] => setStatus status
  | status, w :: ws => do waitEach ((← waitFor (← process w)).getD status) ws

def wait (words : List String) : Act Unit := do
  match Options.read [] words with
  | .error e => fail e
  | .ok (_, []) => do
    let m ← get
    (m.scene.jobs.filter fun j => j.pid ∈ m.children).forM fun j => do
      waitUntil j.ends
      modifyScene (·.notice j.pid)
    setStatus 0
  | .ok (_, ws) => waitEach 127 ws

end Typeset.Shell.Signal
