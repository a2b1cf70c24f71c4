import Typeset.FileSystem.Basic
import Typeset.Text.Split

/-!
Name resolution as the system does it: names are looked up one after the other from the root or the
working directory, links are followed wherever they stand, and `..` leads to the directory above
the one reached so far. Forty links are followed at most.
-/

namespace Typeset.FileSystem

open Text

/-- Links that one resolution follows. -/
def linkLimit : Nat := 40

def nameLimit : Nat := 255

def pathLimit : Nat := 4095

/-- Whether a name stands for the directory it is looked up in. -/
def isHere (name : String) : Bool := name = "" || name = "."

def walk (fs : FileSystem) : (links : Nat) → (here : Location) → (todo : List String) →
    Except Errno Location
  | _, here, [] => .ok here
  | links, here, name :: rest =>
    if !fs.hasDirectory here then .error .notDirectory
    else if isHere name then walk fs links here rest
    else if name = ".." then walk fs links here.dropLast rest
    else if nameLimit < name.utf8ByteSize then .error .nameTooLong
    else match fs.entry? (here ++ [name]) with
      | none => .error .noEntry
      | some (.link target) =>
        match links with
        | 0 => .error .tooManyLinks
        | links + 1 =>
          if target = "" then .error .noEntry
          else walk fs links (if target.front = '/' then [] else here) (split '/' target ++ rest)
      | some _ => walk fs links (here ++ [name]) rest
termination_by links _ todo => (links, todo.length)

/-- The location that a path names, seen from the directory `cwd`. -/
def locate (fs : FileSystem) (cwd : Location) (path : String) : Except FileError Location :=
  if '\x00' ∈ path.toList then .error .nul
  else if path = "" then .error (.system .noEntry)
  else if pathLimit < path.utf8ByteSize then .error (.system .nameTooLong)
  else (walk fs linkLimit (if path.front = '/' then [] else cwd) (split '/' path)).mapError .system

def stat (fs : FileSystem) (cwd : Location) (path : String) : Except FileError Entry := do
  let loc ← fs.locate cwd path
  match fs.entry? loc with
  | some e => pure e
  | none => throw (.system .noEntry)

@[simp] theorem walk_nil (fs : FileSystem) (links : Nat) (here : Location) :
    walk fs links here [] = .ok here := by
  rw [walk]

end Typeset.FileSystem
