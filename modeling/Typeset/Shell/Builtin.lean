import Typeset.Shell.Condition
import Typeset.Shell.Declaration
import Typeset.Shell.Directory
import Typeset.Shell.Line
import Typeset.Shell.NextOption
import Typeset.Shell.Printing

/-!
Commands that the shell carries out itself and that run no other command.
-/

namespace Typeset.Shell.Builtin

open Act

def leaveShell : List String → Act Unit
  | [] => do
    let m ← get
    throw (.exit (m.kept.getD m.status))
  | w :: _ => do throw (.exit (← natural w))

def leaveFunction : List String → Act Unit
  | [] => do throw (.return (← get).status)
  | w :: _ => do throw (.return (← natural w))

def leaveLoops (flow : Nat → Flow) (words : List String) : Act Unit := do
  let n ← match words with
    | [] => pure 1
    | w :: _ => do
      let n ← natural w
      if n = 0 then fail ("Illegal number: " ++ w)
      pure n
  setStatus 0
  match min n (← get).loops with
  | 0 => pure ()
  | n => throw (flow n)

def test (words : List String) : Act Unit := do
  let m ← get
  match Condition.test ⟨m.scene.files, m.directory⟩ words with
  | .ok b => setStatus (if b then 0 else 1)
  | .error e => fail e

def bracket (words : List String) : Act Unit := do
  if words.getLast?.any (·.startsWith "]") then test words.dropLast else fail "missing ]"

/-- Fills a format. What has been written is kept even if the format cannot be written to its end. -/
def printf (words : List String) : Act Unit := do
  match Options.read [] words with
  | .error e => fail e
  | .ok (_, []) => fail "usage: printf format [arg ...]"
  | .ok (_, format :: words) =>
    let p := Printing.printf format words
    p.complaints.forM warn
    emit p.bytes
    setStatus p.status
    if p.mistake.isSome then throw .failed

def echo (words : List String) : Act Unit := do
  emit (Printing.echo words)
  setStatus 0

def maskLetters (mask : Nat) : String :=
  let group (n : Nat) : String := String.ofList
    ([(4, 'r'), (2, 'w'), (1, 'x')].filterMap fun p => if (mask / n) &&& p.1 = 0 then some p.2 else none)
  "u=" ++ group 64 ++ ",g=" ++ group 8 ++ ",o=" ++ group 1

def umask (words : List String) : Act Unit := do
  match Options.read (Options.plain ['S']) words with
  | .error e => fail e
  | .ok (found, []) =>
    let mask := (← get).mask
    let digits := Nat.toDigits 8 mask
    put 1 ((if found.isEmpty then String.ofList (List.replicate (4 - digits.length) '0' ++ digits)
      else maskLetters mask) ++ "\n")
    setStatus 0
  | .ok (_, w :: _) =>
    if !w.front.isDigit then fail ("Illegal mode: " ++ w)
    if !w.toList.all fun c => '0' ≤ c && c ≤ '7' then fail ("Illegal number: " ++ w)
    let mask := w.toList.foldl (fun n c => n * 8 + (c.toNat - 48)) 0
    modify fun m => { m with mask := mask % 512 }
    setStatus 0

def ofName? (name : String) : Option (List String → Act Unit) :=
  match name with
  | ":" => some fun _ => setStatus 0
  | "true" => some fun _ => setStatus 0
  | "false" => some fun _ => setStatus 1
  | "echo" => some echo
  | "printf" => some printf
  | "test" => some test
  | "[" => some bracket
  | "exit" => some leaveShell
  | "return" => some leaveFunction
  | "break" => some (leaveLoops .break)
  | "continue" => some (leaveLoops .continue)
  | "cd" => some Directory.change
  | "chdir" => some Directory.change
  | "pwd" => some Directory.print
  | "export" => some (Declaration.declare mark "export" Machine.exported)
  | "readonly" => some (Declaration.declare protect "readonly" Machine.readOnly)
  | "local" => some Declaration.declareLocal
  | "unset" => some Declaration.unset
  | "set" => some Declaration.set
  | "shift" => some Declaration.shift
  | "alias" => some Declaration.declareAliases
  | "unalias" => some Declaration.forgetAliases
  | "getopts" => some NextOption.take
  | "read" => some Line.read
  | "kill" => some Signal.kill
  | "trap" => some Signal.trap
  | "wait" => some Signal.wait
  | "umask" => some umask
  | "times" => some fun _ => do
    put 1 "0m0.000000s 0m0.000000s\n0m0.000000s 0m0.000000s\n"
    setStatus 0
  | "ulimit" => some fun _ => do
    put 1 "unlimited\n"
    setStatus 0
  | "jobs" => some fun _ => setStatus 0
  | "fg" => some fun _ => fail "No current job"
  | "bg" => some fun _ => fail "No current job"
  | _ => none

/-- Commands of the shell that run other commands, or look for them. -/
def runners : List String := [".", "command", "eval", "exec", "hash", "type"]

def isBuiltin (name : String) : Bool := (ofName? name).isSome || name ∈ runners

def takesAssignments (name : String) : Bool := name ∈ ["alias", "export", "local", "readonly"]

end Typeset.Shell.Builtin
