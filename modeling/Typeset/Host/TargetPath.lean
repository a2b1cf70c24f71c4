import Typeset.FileSystem.RealPath
import Typeset.Host

/-!
Resolving the path of a document: the tilde is expanded and every link on the way is followed. A
name that does not exist resolves all the same; a circle of links does not.
-/

namespace Typeset

open Text

inductive PathError
  | flawed (f : NameFlaw)
  | noWorkingDirectory
  | linkCircle (path : String)
  deriving DecidableEq

namespace PathError

def message : PathError → String
  | .flawed f => f.message
  | .noWorkingDirectory => Errno.noEntry.reason
  | .linkCircle path => "Symlink loop from " ++ Literal.ofText path

end PathError

namespace Host

/-- The absolute path without links that a path leads to. -/
def resolve (h : Host) (path : String) : Except PathError PosixPath :=
  match h.homes.expand path with
  | .error f => .error (.flawed f)
  | .ok expanded =>
    match h.encoding.pathFlaw? expanded with
    | some f => .error (.flawed f)
    | none =>
      -- the walk is made on the normal form of the path
      let walked := (PosixPath.ofText expanded).toText
      let found := h.files.realPath h.workingDirectory walked
      if h.files.isSeenFrom h.workingDirectory walked && !h.hasWorkingDirectory then
        .error .noWorkingDirectory
      else match h.files.stat h.workingDirectory found.toText with
        | .error (.system .tooManyLinks) => .error (.linkCircle found.toText)
        | _ => .ok found

theorem resolve_eq_ok {h : Host} {path : String} {p : PosixPath} (hp : h.resolve path = .ok p) :
    ∃ s, h.homes.expand path = .ok s ∧
      p = h.files.realPath h.workingDirectory (PosixPath.ofText s).toText := by
  unfold resolve at hp
  split at hp
  · simp at hp
  next s hs =>
    split at hp
    · simp at hp
    · simp only at hp
      split at hp
      · simp at hp
      · split at hp
        · simp at hp
        · simp only [Except.ok.injEq] at hp
          exact ⟨s, hs, hp.symm⟩

section Walked
variable {h : Host} {path expanded : String} {p : PosixPath}
  (hexpand : h.homes.expand path = .ok expanded) (hflaw : h.encoding.pathFlaw? expanded = none)
  (hcwd : h.files.isSeenFrom h.workingDirectory (PosixPath.ofText expanded).toText = true →
    h.hasWorkingDirectory = true)
  (hreal : h.files.realPath h.workingDirectory (PosixPath.ofText expanded).toText = p)
include hexpand hflaw hcwd hreal

theorem resolve_of_stat {e : Entry} (hstat : h.files.stat h.workingDirectory p.toText = .ok e) :
    h.resolve path = .ok p := by
  have hplace : (h.files.isSeenFrom h.workingDirectory (PosixPath.ofText expanded).toText &&
      !h.hasWorkingDirectory) = false := by simpa using hcwd
  simp only [resolve, hexpand, hflaw, hplace, hreal, hstat, Bool.false_eq_true, if_false]

theorem resolve_of_circle
    (hstat : h.files.stat h.workingDirectory p.toText = .error (.system .tooManyLinks)) :
    h.resolve path = .error (.linkCircle p.toText) := by
  have hplace : (h.files.isSeenFrom h.workingDirectory (PosixPath.ofText expanded).toText &&
      !h.hasWorkingDirectory) = false := by simpa using hcwd
  simp only [resolve, hexpand, hflaw, hplace, hreal, hstat, Bool.false_eq_true, if_false]

end Walked

end Host
end Typeset
