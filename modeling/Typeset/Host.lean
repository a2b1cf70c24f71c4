import Typeset.FileSystem.Access
import Typeset.Path.Home
import Typeset.Path.Posix
import Typeset.Variables

/-!
The host that a run sees: its files, the working directory, the variables of the process, and where
users have their homes. The directory of the wrapper scripts that come with the program is part of
the host too.
-/

namespace Typeset

open Text

/-- What a process can ask about the machine that it runs on. -/
structure Host where
  files : FileSystem
  workingDirectory : Location
  environment : Variables
  accounts : List (String × String)
  scripts : PosixPath
  /-- The home directory that the account of the current user has. -/
  account : Option String := none
  encoding : Encoding := .utf8

namespace Host

def workingPath (h : Host) : PosixPath := ⟨.root, h.workingDirectory⟩

/-- The home directories. That of the current user is the variable `HOME`, and only without it the
directory of the account. -/
def homes (h : Host) : Homes :=
  ⟨(h.environment.get? "HOME").or h.account, h.accounts, h.encoding⟩

def isDirectory (h : Host) (path : String) : Bool := h.files.isDirectory h.workingDirectory path

def isProgram (h : Host) (path : String) : Bool := h.files.isProgram h.workingDirectory path

def isFile (h : Host) (path : String) : Except Errno Bool := h.files.isFile h.workingDirectory path

def hasWorkingDirectory (h : Host) : Bool := h.files.hasDirectory h.workingDirectory

/-- A path leads to a directory, but the working directory that it is seen from has no name any more. -/
def isAdrift (h : Host) (path : String) : Bool :=
  !h.hasWorkingDirectory && path ≠ "" && path.front ≠ '/' &&
    path.utf8ByteSize ≤ FileSystem.pathLimit && (h.encoding.pathFlaw? path).isNone &&
    h.files.leadsToDirectory h.workingDirectory (split '/' path)

theorem isAdrift_of_hasWorkingDirectory {h : Host} (hcwd : h.hasWorkingDirectory = true)
    (path : String) : h.isAdrift path = false := by
  simp [isAdrift, hcwd]

/-- The absolute path without `..` that a path writes, by its text alone. -/
def absolute (h : Host) (p : PosixPath) : PosixPath := .absolute h.workingPath p

end Host
end Typeset
