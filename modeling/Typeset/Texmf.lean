import Typeset.Fault
import Typeset.Host.ProgramSearch
import Typeset.SearchPath

/-!
The tree of TeX inputs below a share directory. The share directory comes from the configuration or
from the environment; without a tree in it, nothing is added to the search paths.
-/

namespace Typeset

open Text

/-- The directories of LaTeX, BibTeX and BibTeX style files. -/
structure Texmf where
  latex : PlatformPath
  bibliographies : PlatformPath
  styles : PlatformPath
  deriving DecidableEq

namespace Texmf

/-- The share directory: the configured one, that of `R_SHARE_DIR`, or the one below `R_HOME`. -/
def shareDirectory? (configured : Option String) (env : Variables) : Option String :=
  match configured.filter (· ≠ "") with
  | some d => some d
  | none => match env.nonEmpty? "R_SHARE_DIR" with
    | some d => some d
    | none => (env.nonEmpty? "R_HOME").map (Host.joinPath · "share")

def below (tree : PlatformPath) : Texmf :=
  ⟨(tree.child "tex").child "latex", (tree.child "bibtex").child "bib",
    (tree.child "bibtex").child "bst"⟩

def treeBelow (h : Host) (share : String) : PosixPath :=
  (h.absolute (.ofText share)).child "texmf"

/-- The directories below a share directory, if there is a tree in it. -/
def locate (h : Host) (platform : Platform) (share : Option String) : Option Texmf :=
  match share with
  | none => none
  | some share =>
    if share ≠ "" ∧ h.isDirectory share then
      let tree := (treeBelow h share).toText
      if h.isDirectory tree then some (below (.ofText platform tree)) else none
    else none

/-- A share directory whose name cannot be made absolute. -/
def fault? (h : Host) (share : Option String) : Option Fault :=
  if share.any h.isAdrift then some .noWorkingDirectory else none

def paths (t : Texmf) : List PlatformPath := [t.latex, t.bibliographies, t.styles]

theorem fault?_of_hasWorkingDirectory {h : Host} (hcwd : h.hasWorkingDirectory = true)
    (share : Option String) : fault? h share = none := by
  cases share with
  | none => rfl
  | some share => simp [fault?, h.isAdrift_of_hasWorkingDirectory hcwd]

@[simp] theorem locate_none (h : Host) (platform : Platform) : locate h platform none = none := rfl

end Texmf
end Typeset
