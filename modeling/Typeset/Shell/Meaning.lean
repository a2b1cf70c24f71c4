import Typeset.Host.Execution
import Typeset.Shell.Builtin
import Typeset.Shell.Reader

/-!
What the name of a command stands for. A name with a slash is the path of a program; any other one is that
of a function, of a command of the shell, or of a program that is looked for on the search path.
-/

namespace Typeset.Shell.Meaning

open Text Act

def isPath (name : String) : Bool := '/' ∈ name.toList

def searchPath (m : Machine) : String := (m.values.get? "PATH").getD ""

def usualSearchPath : String := "/usr/local/sbin:/usr/local/bin:/usr/sbin:/usr/bin:/sbin:/bin"

def candidates (name path : String) : List String :=
  (split ':' path).map fun d => if d = "" then name else d ++ "/" ++ name

def isProgram (m : Machine) (path : String) : Bool :=
  m.scene.files.isProgram m.directory (Octets.toText path)

def isThere (m : Machine) (path : String) : Bool :=
  match m.scene.files.stat m.directory (Octets.toText path) with
  | .ok _ => true
  | .error _ => false

def absence (m : Machine) (name path : String) : String :=
  let refusals := (candidates name path).filterMap fun c =>
    match m.scene.files.stat m.directory (Octets.toText c) with
    | .ok _ => some Errno.accessDenied.reason
    | .error (.system e) => if Program.isMissing e then none else some e.reason
    | .error .nul => none
  refusals.getLast?.getD "not found"

def program? (m : Machine) (name path : String) : Option String :=
  if isPath name then (if isThere m name then some name else none)
  else (candidates name path).find? (isProgram m)

/-- A program with its texts as the shell has them, and with more arguments. -/
def inOctets (p : Program) (words : List String) : Program :=
  ⟨p.tool, Octets.ofText p.name, p.arguments.map Octets.ofText ++ words⟩

def statusOf (e : Errno) : Nat :=
  if Program.isMissing e ∨ e = .tooManyLinks ∨ e = .nameTooLong then 127 else 126

/-- Whether a file that the system does not execute is a script: its first line is text. -/
def isScript (m : Machine) (path : String) : Bool :=
  match m.scene.files.read m.directory path with
  | .ok bs =>
    let line := (bs.take Program.headSize).takeWhile (· ≠ 10)
    line.all fun b => 32 ≤ b && b ≠ 127 || 7 ≤ b && b ≤ 13 || b = 27
  | .error _ => false

/-- What a name stands for. -/
inductive Sense
  | keyword
  | aliased (value : String)
  | function
  | builtin
  | program (path : String)
  | nothing

def ofName (m : Machine) (name path : String) : Sense :=
  if name ∈ keywords then .keyword
  else match m.aliases.lookup name with
    | some value => .aliased value
    | none =>
      if (m.functions.lookup name).isSome ∧ !isPath name then .function
      else if Builtin.isBuiltin name ∧ !isPath name then .builtin
      else match program? m name path with
        | some file => .program file
        | none => .nothing

/-- Tells in full what a name stands for; the answer is whether it is anything. -/
def describe (name path : String) : Act Bool := do
  let say (s : String) : Act Bool := do
    put 1 (name ++ s ++ "\n")
    pure true
  match ofName (← get) name path with
  | .keyword => say " is a shell keyword"
  | .aliased value => say (" is an alias for " ++ value)
  | .function => say " is a shell function"
  | .builtin => say (if name ∈ Reader.specialNames then " is a special shell builtin"
    else " is a shell builtin")
  | .program file =>
    let found := if isPath name ∨ file ∉ (← get).found then " is " else " is a tracked alias for "
    say (found ++ file)
  | .nothing => do
    let _ ← say ": not found"
    pure false

/-- Tells in one word what a name stands for; the answer is whether it is anything. -/
def identify (name path : String) : Act Bool := do
  match ofName (← get) name path with
  | .aliased value => do
    put 1 "alias "
    Declaration.showAlias (name, value)
    pure true
  | .program file => do
    put 1 (file ++ "\n")
    pure true
  | .nothing => pure false
  | _ => do
    put 1 (name ++ "\n")
    pure true

def type (words : List String) : Act Unit := do
  match Options.read [] words with
  | .error e => fail e
  | .ok (_, names) =>
    let path := searchPath (← get)
    let known ← names.mapM fun name => describe name path
    setStatus (if known.all id then 0 else 127)

def hash (words : List String) : Act Unit := do
  match Options.read (Options.plain ['r']) words with
  | .error e => fail e
  | .ok (found, names) =>
    if !found.isEmpty then modify fun m => { m with found := [] }
    if found.isEmpty ∧ names.isEmpty then
      (← get).found.forM fun file => put 1 (file ++ "\n")
    setStatus 0
    names.forM fun name => do
      let m ← get
      if (m.functions.lookup name).isNone ∧ !Builtin.isBuiltin name then
        match program? m name (searchPath m) with
        | some file => if !isPath name then modify fun m => { m with found := file :: m.found.erase file }
        | none =>
          warn (name ++ ": " ++ absence m name (searchPath m))
          setStatus 1

end Typeset.Shell.Meaning
