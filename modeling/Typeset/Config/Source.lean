import Typeset.Config.File

/-!
Where the configuration comes from. The path on the command line counts first, then the variable
`TEXPDF_CONFIG`, then a file at the usual place if there is one; without any of them the settings are
the default ones.
-/

namespace Typeset.Config

def pathVariable : String := "TEXPDF_CONFIG"

def usualPath : String := "~/.config/texpdf/config.toml"

/-- The path that a text writes, with its tilde expanded. -/
def expandedPath (h : Host) (s : String) : Except LoadError PosixPath :=
  ((h.homes.expand s).map PosixPath.ofText).mapError .flawedHome

def isRegular (h : Host) (path : PosixPath) : Except LoadError Bool :=
  (h.isFile path.toText).mapError fun e => .system e path.toText

def configPath (h : Host) (given : Option PosixPath) (env : Variables) :
    Except LoadError (Option PosixPath) :=
  match given with
  | some p => .ok (some p)
  | none =>
    match env.nonEmpty? pathVariable with
    | some s => (expandedPath h s).map some
    | none => do
      let usual ← expandedPath h usualPath
      if ← isRegular h usual then pure (some usual) else pure none

/-- The settings of a configuration file, or the default ones. -/
def loadSettings (h : Host) (path : Option PosixPath) : Except LoadError Settings :=
  match path with
  | none => .ok .default
  | some p => do
    if !(← isRegular h p) then throw (.notFound p.toText)
    let data ← loadFile h p
    (Settings.ofMapping h.homes data).mapError .settings

@[simp] theorem configPath_some (h : Host) (p : PosixPath) (env : Variables) :
    configPath h (some p) env = .ok (some p) := rfl

@[simp] theorem loadSettings_none (h : Host) : loadSettings h none = .ok .default := rfl

end Typeset.Config
