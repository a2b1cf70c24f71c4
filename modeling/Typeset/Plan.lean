import Typeset.Texmf
import Typeset.Toolchain

/-!
The plan of a run: which executable runs with which arguments and variables, from which directory
and on which file. The document is given by its name alone, seen from its own directory.
-/

namespace Typeset

/-- The arguments of the compiler, without the document. The alternate distribution takes the
directories of a tree of inputs as flags on Windows; that of bibliographies has no flag. -/
def compilerArguments (distribution : Distribution) (platform : Platform) (tree : Option Texmf) :
    List String :=
  ["--pdf", "--quiet"] ++
    match platform, distribution, tree with
    | .windows, .alternate, some t =>
      ["-I", forwardSlashes t.latex.toText, "-I", forwardSlashes t.styles.toText]
    | _, _, _ => []

structure Plan where
  executable : PosixPath
  environment : Variables
  arguments : List String
  workingDirectory : PosixPath
  target : String
  deriving DecidableEq

namespace Plan

def forTarget (executable : PosixPath) (environment : Variables) (arguments : List String)
    (document : PosixPath) : Plan :=
  ⟨executable, environment, arguments, document.parent, document.name⟩

def command (p : Plan) : List String := p.executable.toText :: p.arguments ++ [p.target]

@[simp] theorem command_forTarget (e : PosixPath) (v : Variables) (as : List String)
    (d : PosixPath) : (forTarget e v as d).command = e.toText :: as ++ [d.name] := rfl

end Plan
end Typeset
