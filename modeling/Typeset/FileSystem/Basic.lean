import Typeset.Text.Literal
import Typeset.Text.Utf8

/-!
A file system as a value: a table from locations to entries. A location is the list of names from
the root directory down; the root itself is always a directory. Requests that the system refuses
end in an `Errno`.
-/

namespace Typeset

open Text Utf8

/-- The names from the root directory down to an entry. -/
abbrev Location := List String

inductive Entry
  | directory
  | file (content : Bytes) (mode : Nat)
  | link (target : String)
  | tool (name : String)
  /-- A device that is empty when it is read, and forgets what is written to it. -/
  | device
  deriving DecidableEq

inductive Errno
  | noEntry
  | execFormat
  | accessDenied
  | notDirectory
  | isDirectory
  | nameTooLong
  | tooManyLinks
  deriving DecidableEq

namespace Errno

def number : Errno → Nat
  | .noEntry => 2
  | .execFormat => 8
  | .accessDenied => 13
  | .notDirectory => 20
  | .isDirectory => 21
  | .nameTooLong => 36
  | .tooManyLinks => 40

def reason : Errno → String
  | .noEntry => "No such file or directory"
  | .execFormat => "Exec format error"
  | .accessDenied => "Permission denied"
  | .notDirectory => "Not a directory"
  | .isDirectory => "Is a directory"
  | .nameTooLong => "File name too long"
  | .tooManyLinks => "Too many levels of symbolic links"

def report (e : Errno) (path : String) : String :=
  "[Errno " ++ toString e.number ++ "] " ++ e.reason ++ ": " ++ Literal.ofText path

end Errno

/-- Why a request about a file has no answer: the path holds a NUL, or the system refuses. -/
inductive FileError
  | nul
  | system (e : Errno)
  deriving DecidableEq

/-- A table of the entries below the root directory. -/
structure FileSystem where
  entries : List (Location × Entry)
  deriving DecidableEq

namespace FileSystem

def empty : FileSystem := ⟨[]⟩

def entry? (fs : FileSystem) (loc : Location) : Option Entry :=
  if loc = [] then some .directory else fs.entries.lookup loc

def hasDirectory (fs : FileSystem) (loc : Location) : Bool := fs.entry? loc == some .directory

def put (fs : FileSystem) (loc : Location) (e : Entry) : FileSystem :=
  ⟨(loc, e) :: fs.entries.filter (·.1 ≠ loc)⟩

def remove (fs : FileSystem) (loc : Location) : FileSystem :=
  ⟨fs.entries.filter (·.1 ≠ loc)⟩

/-- Makes a directory and all that are missing above it. -/
def makeDirectories (fs : FileSystem) (loc : Location) : FileSystem :=
  (List.range (loc.length + 1)).foldl (fun fs n =>
    if (fs.entry? (loc.take n)).isNone then fs.put (loc.take n) .directory else fs) fs

/-- Puts an entry at a location and makes the directories above it. -/
def place (fs : FileSystem) (loc : Location) (e : Entry) : FileSystem :=
  (fs.makeDirectories loc.dropLast).put loc e

@[simp] theorem entry?_nil (fs : FileSystem) : fs.entry? [] = some .directory := rfl

end FileSystem
end Typeset
