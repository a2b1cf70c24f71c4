import Typeset.Host

/-!
Finding a program. A name with a slash stands for itself; any other name is looked for in the
directories of a search path, in their order. An empty directory is the working directory.
-/

namespace Typeset.Host

open Text

/-- Where programs are looked for when no search path is set. -/
def defaultSearchPath : String := "/bin:/usr/bin"

def joinPath (directory name : String) : String :=
  if directory = "" ∨ name.front = '/' then name
  else if directory.toList.getLast? = some '/' then directory ++ name
  else directory ++ "/" ++ name

def searchDirectories (h : Host) (name : String) (directories : List String) : Option String :=
  (directories.map (joinPath · name)).find? h.isProgram

def searchPath (h : Host) (given : Option Variables) : String :=
  match given.bind (·.get? "PATH") with
  | some path => path
  | none => (h.environment.get? "PATH").getD defaultSearchPath

def findProgram? (h : Host) (name : String) (given : Option Variables) : Option PosixPath :=
  let found :=
    if '/' ∈ name.toList then if h.isProgram name then some name else none
    else if h.searchPath given = "" then none
    else h.searchDirectories name (split ':' (h.searchPath given))
  found.map PosixPath.ofText

end Typeset.Host
