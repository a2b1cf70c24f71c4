import Typeset.Path.Posix
import Typeset.Path.Windows
import Typeset.Text.Case

/-!
The two kinds of operating system and what they do differently: the separator of search paths, the
ending of scripts and the form of paths.
-/

namespace Typeset

open Text

inductive Platform
  | posix
  | windows
  deriving DecidableEq

namespace Platform

def toText : Platform → String
  | .posix => "posix"
  | .windows => "windows"

def ofText? (s : String) : Option Platform :=
  if s = "posix" then some .posix else if s = "windows" then some .windows else none

def ofSystem (name : String) : Platform := if lower name = "windows" then .windows else .posix

def isWindows (p : Platform) : Bool := p = .windows

def separator : Platform → Char
  | .posix => ':'
  | .windows => ';'

def scriptSuffix : Platform → String
  | .posix => ".sh"
  | .windows => ".cmd"

@[simp] theorem ofText?_toText (p : Platform) : ofText? p.toText = some p := by
  cases p <;> rfl

end Platform

inductive PlatformPath
  | posix (p : PosixPath)
  | windows (p : WindowsPath)
  deriving DecidableEq

namespace PlatformPath

def ofText : Platform → String → PlatformPath
  | .posix, s => .posix (.ofText s)
  | .windows, s => .windows (.ofText s)

def toText : PlatformPath → String
  | .posix p => p.toText
  | .windows p => p.toText

def child : PlatformPath → String → PlatformPath
  | .posix p, n => .posix (p.child n)
  | .windows p, n => .windows (p.child n)

end PlatformPath

def forwardSlashes (s : String) : String := replaceChar '\\' '/' s

theorem backslash_notMem_forwardSlashes (s : String) : '\\' ∉ (forwardSlashes s).toList := by
  simp only [forwardSlashes, replaceChar, String.toList_ofList, List.mem_map, not_exists, not_and]
  intro c _
  split <;> simp_all

end Typeset
