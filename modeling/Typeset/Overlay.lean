import Typeset.Texmf

/-!
The variables laid over the environment for a run of the compiler: three search paths if a tree of
inputs was found, two settings on POSIX systems, and the wrapper script that stands in for the LaTeX
program.
-/

namespace Typeset

/-- The search paths for a tree of inputs. Only that of LaTeX files is rewritten on Windows. -/
def searchPaths (tree : Option Texmf) (env : Variables) (platform : Platform) : List SearchPath :=
  match tree with
  | none => []
  | some t =>
    [.extending "TEXINPUTS" t.latex env platform true,
     .extending "BIBINPUTS" t.bibliographies env platform false,
     .extending "BSTINPUTS" t.styles env platform false]

def wrapperScript (platform : Platform) (directory : PosixPath) : PosixPath :=
  directory.child ("texpdf-pdflatex" ++ platform.scriptSuffix)

def posixSettings : Platform → List (String × String)
  | .posix => [("TEXINDY", "false"), ("LC_COLLATE", "C")]
  | .windows => []

def compilerOverlay (h : Host) (tree : Option Texmf) (env : Variables) (platform : Platform)
    (scripts : PosixPath) : Variables :=
  ⟨(searchPaths tree env platform).map (fun v => (v.name, v.value)) ++ posixSettings platform ++
    [("PDFLATEX", (h.absolute (wrapperScript platform scripts)).toText)]⟩

/-- What cannot be composed: the parts of a tree are encoded first, then the script is made absolute and
encoded. -/
def overlayFault? (h : Host) (tree : Option Texmf) (platform : Platform) (scripts : PosixPath) :
    Option Fault :=
  let script := wrapperScript platform scripts
  if tree.any fun t => t.paths.any fun p => !h.encoding.encodes p.toText then some .unencodable
  else if !script.isAbsolute && !h.hasWorkingDirectory then some .noWorkingDirectory
  else if !h.encoding.encodes (h.absolute script).toText then some .unencodable
  else none

theorem overlayFault?_of_hasWorkingDirectory {h : Host} (hcwd : h.hasWorkingDirectory = true)
    (hcode : h.encoding = .utf8) (tree : Option Texmf) (platform : Platform) (scripts : PosixPath) :
    overlayFault? h tree platform scripts = none := by
  cases tree <;> simp [overlayFault?, hcwd, hcode]

@[simp] theorem searchPaths_none (env : Variables) (platform : Platform) :
    searchPaths none env platform = [] := rfl

theorem nodup_names_compilerOverlay (h : Host) (tree : Option Texmf) (env : Variables)
    (platform : Platform) (scripts : PosixPath) :
    ((compilerOverlay h tree env platform scripts).pairs.map Prod.fst).Nodup := by
  cases tree <;> cases platform <;>
    simp [compilerOverlay, searchPaths, posixSettings]

end Typeset
