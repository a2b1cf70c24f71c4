import Typeset.Platform
import Typeset.Variables

/-!
Search path variables of TeX. Such a variable is what the environment already holds (a dot if that
is nothing), then a directory, then an empty entry that stands for the default directories.
-/

namespace Typeset

open Text

/-- A variable with segments to be joined by a separator. -/
structure SearchPath where
  name : String
  segments : List String
  separator : Char
  deriving DecidableEq

namespace SearchPath

def value (v : SearchPath) : String := join v.separator v.segments

/-- What the environment holds for a variable; a dot if that is nothing. -/
def ambient (env : Variables) (name : String) : String := (env.nonEmpty? name).getD "."

/-- The variable that adds a directory to what the environment holds. With `slashes`, backslashes
are rewritten on Windows. -/
def extending (name : String) (directory : PlatformPath) (env : Variables) (platform : Platform)
    (slashes : Bool) : SearchPath :=
  let segments := [ambient env name, directory.toText, ""]
  ⟨name, if platform.isWindows && slashes then segments.map forwardSlashes else segments,
    platform.separator⟩

@[simp] theorem name_extending (name : String) (d : PlatformPath) (env : Variables) (p : Platform)
    (slashes : Bool) : (extending name d env p slashes).name = name := rfl

@[simp] theorem separator_extending (name : String) (d : PlatformPath) (env : Variables)
    (p : Platform) (slashes : Bool) :
    (extending name d env p slashes).separator = p.separator := rfl

end SearchPath
end Typeset
