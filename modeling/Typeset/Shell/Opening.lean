import Typeset.Shell.Machine

/-!
Redirections: descriptors are opened on files, closed, or made to lead where others do.
-/

namespace Typeset.Shell.Opening

open Text.Utf8 Act

structure Redirected where
  descriptor : Nat
  direction : Direction
  target : String

/-- The words for a refused request about a file that is to be there, or about one that is to be made. -/
def reason (creates : Bool) : FileError → String
  | .nul => "Invalid argument"
  | .system .noEntry => if creates then "Directory nonexistent" else "No such file"
  | .system .notDirectory => if creates then "Directory nonexistent" else "No such file"
  | .system e => e.reason

def isProtected (m : Machine) (path : String) : Bool :=
  match m.scene.files.stat m.directory path with
  | .ok (.file _ _) => true
  | .ok (.tool _) => true
  | .ok .directory => true
  | _ => false

def openOutput (descriptor : Nat) (target : String) (keep overwrites : Bool) : Act Unit := do
  let m ← get
  let path := Octets.toText target
  if !overwrites ∧ m.hasOption 'C' ∧ isProtected m path then
    fail ("cannot create " ++ target ++ ": File exists")
  match m.scene.files.openFile m.directory path keep (FileSystem.newFileMode m.mask) with
  | .ok (loc, files) => set ({ m with scene := { m.scene with files := files } }.connect descriptor (.file loc))
  | .error e => fail ("cannot create " ++ target ++ ": " ++ reason true e)

/-- Opens a file for reading. A directory can be opened, but nothing can be read from it. -/
def openInput (descriptor : Nat) (target : String) : Act Unit := do
  let m ← get
  match m.scene.files.read m.directory (Octets.toText target) with
  | .ok bs => set (m.supply descriptor ⟨bs, 0⟩)
  | .error (.system .isDirectory) => set (m.supply descriptor ⟨[], 0⟩)
  | .error e => fail ("cannot open " ++ target ++ ": " ++ reason false e)

def openBoth (descriptor : Nat) (target : String) : Act Unit := do
  let m ← get
  let path := Octets.toText target
  match m.scene.files.stat m.directory path with
  | .ok _ => openInput descriptor target
  | .error _ =>
    match m.scene.files.openFile m.directory path true (FileSystem.newFileMode m.mask) with
    | .ok (_, files) => set ({ m with scene := { m.scene with files := files } }.supply descriptor ⟨[], 0⟩)
    | .error e => fail ("cannot create " ++ target ++ ": " ++ reason true e)

/-- The descriptor that a word names: one digit, or a dash for none. -/
def descriptor? (target : String) : Option (Option Nat) :=
  match target.toList with
  | ['-'] => some none
  | [c] => if c.isDigit then some (some (c.toNat - 48)) else none
  | _ => none

def checkDescriptor (target : String) : Act Unit := do
  if (descriptor? target).isNone then fail "Syntax error: Bad fd number"

def duplicate (descriptor : Nat) (target : String) : Act Unit := do
  let m ← get
  match descriptor? target with
  | some (some n) =>
    if n ≠ descriptor then
      match m.descriptors.lookup n with
      | some s => set (m.connect descriptor s)
      | none => fail (target ++ ": Bad file descriptor")
  | _ => set (m.close descriptor)

def perform (r : Redirected) : Act Unit :=
  match r.direction with
  | .input => openInput r.descriptor r.target
  | .output => openOutput r.descriptor r.target false false
  | .clobber => openOutput r.descriptor r.target false true
  | .append => openOutput r.descriptor r.target true true
  | .both => openBoth r.descriptor r.target
  | .duplicate => duplicate r.descriptor r.target
  | .text => modify (·.supply r.descriptor ⟨Octets.toBytes r.target.toList, 0⟩)

/-- Goes on with what an action led to, after its descriptors have been put back. -/
def restoring (act : Act Unit) : Act Unit := do
  let before := (← get).descriptors
  let flow ← flowOf act
  modify fun m => { m with descriptors := before }
  resume flow

end Typeset.Shell.Opening
