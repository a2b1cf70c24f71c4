import Typeset.Host.TargetPath
import Typeset.Proofs.FileSystem.Reaching
import Typeset.Proofs.Host.DenotedProgram

/-!
# Hosts at their root directory

The simplest host stands in its root directory and knows nothing but its files. There a path that meets
no link on its way is resolved to the names that it writes.
-/

namespace Typeset

open Text FileSystem

namespace Host

/-- A host in its root directory, without variables or accounts. -/
def atRoot (files : FileSystem) : Host where
  files := files
  workingDirectory := []
  environment := .empty
  accounts := []
  scripts := ⟨.root, ["scripts"]⟩

variable {files : FileSystem} {path : String} {names : List String} {e : Entry}

theorem hasWorkingDirectory_atRoot (files : FileSystem) :
    (atRoot files).hasWorkingDirectory = true := rfl

theorem stat_of_absolute (h : files.HasPlain [] names e) (hroot : Spells path names)
    (hfront : path.front = '/') (cwd : Location) : files.stat cwd path = .ok e :=
  stat_eq_ok_iff.2 ⟨names, h.locate_of_absolute hroot hfront, h.entry⟩

section Resolve
variable (hpath : path.toList.head? ≠ some '~' ∧ '\x00' ∉ path.toList)
  (hroot : Spells (PosixPath.mk .root names).toText names ∧
    (PosixPath.mk .root names).toText.front = '/')
include hpath hroot

theorem resolve_atRoot (h : files.HasPlain [] names e)
    (hnormal : Spells (PosixPath.ofText path).toText names ∧
      (PosixPath.ofText path).toText.front ≠ '/') :
    (atRoot files).resolve path = .ok ⟨.root, names⟩ :=
  resolve_of_stat (Homes.expand_of_no_tilde _ hpath.1)
    (Encoding.pathFlaw?_utf8_eq_none_iff.2 hpath.2) (fun _ => hasWorkingDirectory_atRoot files)
    (h.realPath_eq hnormal.1 hnormal.2) (stat_of_absolute h hroot.1 hroot.2 [])

/-- An absolute path is resolved without a working directory too. -/
theorem resolve_of_absolute {h : Host} (hplain : h.files.HasPlain [] names e)
    (hcode : h.encoding = .utf8)
    (hnormal : Spells (PosixPath.ofText path).toText names ∧
      (PosixPath.ofText path).toText.front = '/') : h.resolve path = .ok ⟨.root, names⟩ := by
  have hnames := hplain.realNamesOf_of_absolute hnormal.1 hnormal.2 h.workingDirectory
  have hreal : h.files.realPath h.workingDirectory (PosixPath.ofText path).toText =
      ⟨.root, names⟩ := by
    rw [realPath, hnames]
    rfl
  have hseen : h.files.isSeenFrom h.workingDirectory (PosixPath.ofText path).toText = false := by
    rw [isSeenFrom, hnames]
    rfl
  have hflaw : h.encoding.pathFlaw? path = none := by
    rw [hcode]
    exact Encoding.pathFlaw?_utf8_eq_none_iff.2 hpath.2
  exact resolve_of_stat (Homes.expand_of_no_tilde _ hpath.1) hflaw (fun hs => by simp [hseen] at hs)
    hreal (stat_of_absolute hplain hroot.1 hroot.2 _)

end Resolve

theorem isProgram_atRoot (h : files.HasPlain [] names e) (hroot : Spells path names)
    (hfront : path.front = '/') (hp : files.hasProgram names = true) :
    (atRoot files).isProgram path = true :=
  isProgram_iff.2 ⟨names, h.locate_of_absolute hroot hfront, hp⟩

end Host
end Typeset
