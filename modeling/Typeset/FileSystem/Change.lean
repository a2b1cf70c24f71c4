import Typeset.FileSystem.Access

/-!
Changes of files: writing, creating, and taking away. A name that does not exist is created in the
directory that the rest of its path names.
-/

namespace Typeset.FileSystem

open Text Utf8

/-- The permissions of a new file, of which a mask takes some away. -/
def newFileMode (mask : Nat) : Nat := 0o666 &&& (0o777 ^^^ mask % 512)

def writable (mode : Nat) : Bool := mode.testBit 7

def splitPath (path : String) : String × String :=
  let chars := path.toList.reverse
  let trimmed := chars.dropWhile (· = '/')
  let name := trimmed.takeWhile (· ≠ '/')
  let above := trimmed.drop name.length
  (if above.isEmpty then (if path.front = '/' then "/" else ".") else String.ofList above.reverse,
    String.ofList name.reverse)

def newLocation (fs : FileSystem) (cwd : Location) (path : String) : Except FileError Location := do
  let (above, name) := splitPath path
  let dir ← fs.locate cwd above
  if !fs.hasDirectory dir then throw (.system .notDirectory)
  if name = "" ∨ name = "." ∨ name = ".." then throw (.system .isDirectory)
  pure (dir ++ [name])

/-- Where a path leads to, or would lead to if it existed. -/
def destination (fs : FileSystem) (cwd : Location) (path : String) : Except FileError Location :=
  match fs.locate cwd path with
  | .error (.system .noEntry) => fs.newLocation cwd path
  | r => r

/-- The location of a file that is opened for writing, with the file in place; its content is kept
if more is to be appended. A new file gets `mode`. -/
def openFile (fs : FileSystem) (cwd : Location) (path : String) (keep : Bool) (mode : Nat) :
    Except FileError (Location × FileSystem) := do
  let loc ← fs.destination cwd path
  match fs.entry? loc with
  | some .directory => throw (.system .isDirectory)
  | some (.file content mode) =>
    if !writable mode then throw (.system .accessDenied)
    pure (loc, fs.put loc (.file (if keep then content else []) mode))
  | some (.tool _) => throw (.system .accessDenied)
  | some .device => pure (loc, fs)
  | _ => pure (loc, fs.put loc (.file [] mode))

def extend (fs : FileSystem) (loc : Location) (bs : Bytes) : FileSystem :=
  match fs.entry? loc with
  | some (.file content mode) => fs.put loc (.file (content ++ bs) mode)
  | _ => fs

def removeTree (fs : FileSystem) (loc : Location) : FileSystem :=
  ⟨fs.entries.filter fun e => !loc.isPrefixOf e.1⟩

def names (fs : FileSystem) (loc : Location) : List String :=
  let inside := fs.entries.filterMap fun e =>
    if e.1.dropLast = loc ∧ e.1 ≠ [] then e.1.getLast? else none
  inside.mergeSort fun a b => !(b < a)

def linkLocation (fs : FileSystem) (cwd : Location) (path : String) : Except FileError Location := do
  let loc ← fs.newLocation cwd path
  match fs.entry? loc with
  | some _ => pure loc
  | none => throw (.system .noEntry)

end Typeset.FileSystem
