import Typeset.FileSystem.Resolve

/-!
Questions about files. A question that the system refuses to answer is answered with no, except
that `isFile` passes on what is not about a missing file. The current user owns all files, so the
owner's permissions count.
-/

namespace Typeset.FileSystem

open Text Utf8

def isDirectory (fs : FileSystem) (cwd : Location) (path : String) : Bool :=
  match fs.stat cwd path with
  | .ok .directory => true
  | _ => false

/-- Whether names lead to a directory, seen from one that may have been removed. Such a directory is
empty, but from inside it the directories above are still there. -/
def leadsToDirectory (fs : FileSystem) : (here : Location) → (todo : List String) → Bool
  | _, [] => true
  | here, name :: rest =>
    if fs.hasDirectory here then
      ((walk fs linkLimit here (name :: rest)).toOption.map fs.hasDirectory).getD false
    else if isHere name then leadsToDirectory fs here rest
    else if name = ".." then leadsToDirectory fs here.dropLast rest
    else false

def readable (mode : Nat) : Bool := mode.testBit 8

def executable (mode : Nat) : Bool := mode.testBit 6

def isProgram (fs : FileSystem) (cwd : Location) (path : String) : Bool :=
  match fs.stat cwd path with
  | .ok (.file _ mode) => executable mode
  | .ok (.tool _) => true
  | _ => false

/-- Whether a path names a regular file. A missing name, a name below a file and a circle of links
mean no; any other refusal is an error. -/
def isFile (fs : FileSystem) (cwd : Location) (path : String) : Except Errno Bool :=
  match fs.stat cwd path with
  | .ok (.file _ _) => .ok true
  | .ok (.tool _) => .ok true
  | .ok _ => .ok false
  | .error .nul => .ok false
  | .error (.system e) =>
    if e = .noEntry ∨ e = .notDirectory ∨ e = .tooManyLinks then .ok false else .error e

def toolContent : Bytes := [0x7f, 0x45, 0x4c, 0x46]

def read (fs : FileSystem) (cwd : Location) (path : String) : Except FileError Bytes := do
  match ← fs.stat cwd path with
  | .file content mode =>
    if readable mode then pure content else throw (.system .accessDenied)
  | .directory => throw (.system .isDirectory)
  | .tool _ => pure toolContent
  | .device => pure []
  | .link _ => throw (.system .noEntry)

theorem stat_eq_ok_iff {fs : FileSystem} {cwd : Location} {path : String} {e : Entry} :
    fs.stat cwd path = .ok e ↔ ∃ loc, fs.locate cwd path = .ok loc ∧ fs.entry? loc = some e := by
  rw [stat]
  cases fs.locate cwd path with
  | error f => simp [bind, Except.bind]
  | ok loc =>
    cases he : fs.entry? loc <;> simp [bind, Except.bind, pure, Except.pure, throw, throwThe,
      MonadExceptOf.throw, he]

end Typeset.FileSystem
