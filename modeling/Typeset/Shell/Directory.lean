import Typeset.Path.Posix
import Typeset.Shell.Machine
import Typeset.Shell.Options

/-!
The working directory of the shell. It is known by its location and by the path that led to it, which is
kept as it was written.
-/

namespace Typeset.Shell.Directory

open Text Act

def pathOf (loc : Location) : String := Octets.ofText ("/" ++ join '/' loc)

/-- The path that another path writes when it is seen from the working directory. -/
def pathFrom (m : Machine) (target : String) : String :=
  (PosixPath.absolute (.ofText m.path) (.ofText target)).toText

def location? (m : Machine) (path : String) : Option Location :=
  match m.scene.files.locate m.directory (Octets.toText path) with
  | .ok loc => if m.scene.files.hasDirectory loc then some loc else none
  | .error _ => none

def enter (physical : Bool) (target : String) : Act Bool := do
  let m ← get
  let path := if physical then target else pathFrom m target
  match location? m path with
  | none => pure false
  | some loc =>
    assign "OLDPWD" m.path
    mark "OLDPWD"
    let path := if physical then pathOf loc else path
    modify fun m => { m with directory := loc, path := path }
    assign "PWD" path
    mark "PWD"
    pure true

/-- Whether a target is looked for below the directories of a list. -/
def isSearched (target : String) : Bool :=
  match split '/' target with
  | "" :: _ :: _ => false
  | "." :: _ => false
  | ".." :: _ => false
  | _ => true

/-- Changes the working directory. The new one is told if it is not where one would look for it. -/
def change (words : List String) : Act Unit := do
  match Options.read (Options.plain ['L', 'P']) words with
  | .error e => fail e
  | .ok (found, words) =>
    let m ← get
    let physical := (found.getLast?.map (·.1)) = some 'P'
    let given := words.head?
    let back : Bool := given = some "-"
    let target := if back then (m.values.get? "OLDPWD").getD ""
      else given.getD ((m.values.get? "HOME").getD "")
    let candidates := if isSearched target then
        (split ':' ((m.values.get? "CDPATH").getD "")).map fun d => ((d != ""), d)
      else []
    let target := if target = "" then "." else target
    let below (d : String) : String := if d = "" then target else d ++ "/" ++ target
    let (tells, path) := match candidates.find? fun c => (location? m (below c.2)).isSome with
      | some (tells, d) => (tells, below d)
      | none => (false, target)
    if !(← enter physical path) then fail ("can't cd to " ++ target)
    if back || tells then put 1 ((← get).path ++ "\n")
    setStatus 0

def print (words : List String) : Act Unit := do
  match Options.read (Options.plain ['L', 'P']) words with
  | .error e => fail e
  | .ok (found, _) =>
    let m ← get
    let physical := (found.getLast?.map (·.1)) = some 'P'
    put 1 ((if physical then pathOf m.directory else m.path) ++ "\n")
    setStatus 0

end Typeset.Shell.Directory
