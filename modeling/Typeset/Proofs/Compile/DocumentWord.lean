import Typeset.Proofs.Compile.ChildEnvironment
import Typeset.Proofs.Path.Absolute

/-!
# The word for the document

The compiler is started in the directory of the document, with the document's name as the last word of
its command. Directory and name together always write the resolved path, but the name alone is not
always a safe word: the root directory has none, and a name may begin with a dash, which makes it an
option. Resolving takes away whatever a path was written with to prevent that.
-/

namespace Typeset
open Text

/-- The last word of a command stands for a document, and for nothing else. -/
structure Spawn.SafelyNames (sp : Spawn) (before : List String) (target : PosixPath)
    (word : String) : Prop where
  command : sp.command = before ++ [word]
  joined : Host.joinPath sp.workingDirectory.toText word = target.toText
  slash_notMem : '/' ∉ word.toList
  ne_empty : word ≠ ""
  not_option : word.toList.head? ≠ some '-'

/-- Behind some words, a command names a document. -/
def Spawn.NamesDocument (sp : Spawn) (before : List String) (target : PosixPath) : Prop :=
  ∃ word, sp.SafelyNames before target word

namespace PosixPath
open FileSystem
variable {p : PosixPath}

theorem slash_notMem_name (hp : ∀ n ∈ p.names, IsEntryName n) : '/' ∉ p.name.toList := by
  by_cases hnames : p.names = []
  · simp [name, hnames]
  · obtain ⟨q, n, rfl, -, hn⟩ := exists_of_names_ne_nil hnames
    rw [hn]
    exact (hp n (by simp)).slash_notMem

theorem name_eq_empty_iff (hp : ∀ n ∈ p.names, IsEntryName n) : p.name = "" ↔ p.names = [] := by
  by_cases hnames : p.names = []
  · simp [name, hnames]
  · obtain ⟨q, n, rfl, -, hn⟩ := exists_of_names_ne_nil hnames
    rw [hn]
    exact iff_of_false (hp n (by simp)).ne_empty hnames

/-- A path is written by the path above it and its last name, also where it has none. -/
theorem joinPath_parent_name (habs : p.isAbsolute = true) (hp : ∀ n ∈ p.names, IsEntryName n) :
    Host.joinPath p.parent.toText p.name = p.toText := by
  by_cases hnames : p.names = []
  · obtain ⟨start, names⟩ := p
    subst hnames
    cases start with
    | relative => cases habs
    | root => decide
    | doubleRoot => decide
  · obtain ⟨q, n, rfl, hparent, hn⟩ := exists_of_names_ne_nil hnames
    rw [hparent, hn]
    exact joinPath_child habs (fun m hm => hp m (by simp [hm])) (hp n (by simp))

end PosixPath

namespace Compile
open Job FileSystem

variable {σ : Type} {w : World σ} {s : σ} {ctx : Context} {path : String} {sp : Spawn}

theorem resolve_of_targetOn {h : Host} {target : PosixPath} (ht : targetOn h path = .ok target) :
    h.resolve path = .ok target := by
  rw [targetOn] at ht
  split at ht
  next p hp =>
    cases ht
    exact hp
  next => cases ht
  next => cases ht

theorem isEntryName_of_targetOn {h : Host} {target : PosixPath}
    (hcwd : ∀ n ∈ h.workingDirectory, IsEntryName n) (ht : targetOn h path = .ok target) :
    target.isAbsolute = true ∧ ∀ n ∈ target.names, IsEntryName n := by
  obtain ⟨_, -, rfl⟩ := Host.resolve_eq_ok (resolve_of_targetOn ht)
  exact ⟨isAbsolute_realPath, isEntryName_of_mem_realPath hcwd⟩

/-- A child is started with the compiler that was found, its arguments, and the name that the resolved
path of the document ends with. Seen from the directory that the child is started in, that name writes
the resolved path. It can be taken for nothing else exactly if the document is not the root directory
and its name does not begin with a dash. -/
theorem names_document_iff (hcwd : ∀ n ∈ (w.host s).workingDirectory, IsEntryName n)
    (hsp : sp ∈ ((compile ctx path).run w s).spawns) :
    ∃ target executable t, (w.host s).resolve path = .ok target ∧ target.isAbsolute = true ∧
      executableOn ctx (w.host s) = some executable ∧
      judged ctx executable (w.probe (probeCall ctx executable) s).1 = .ok t ∧
      let before := executable.toText :: compilerArguments t.distribution ctx.platform
        (treeOn ctx (w.host (afterProbe w s ctx executable)))
      sp.command = before ++ [target.name] ∧ '/' ∉ target.name.toList ∧
      Host.joinPath sp.workingDirectory.toText target.name = target.toText ∧
      (sp.NamesDocument before target ↔
        target.names ≠ [] ∧ target.name.toList.head? ≠ some '-') := by
  obtain ⟨target, executable, t, ht, hf, hj, -, hspawns⟩ := exists_toolchain_of_mem_spawns hsp
  rw [hspawns] at hsp
  obtain rfl := List.mem_singleton.1 hsp
  obtain ⟨habs, hnames⟩ := isEntryName_of_targetOn hcwd ht
  have hslash := PosixPath.slash_notMem_name hnames
  have hjoined := PosixPath.joinPath_parent_name habs hnames
  refine ⟨target, executable, t, resolve_of_targetOn ht, habs, hf, hj, rfl, hslash, hjoined, ?_⟩
  constructor
  · rintro ⟨word, h⟩
    obtain rfl : target.name = word := List.singleton_inj.1 (List.append_cancel_left h.command)
    exact ⟨mt (PosixPath.name_eq_empty_iff hnames).2 h.ne_empty, h.not_option⟩
  · rintro ⟨hne, hdash⟩
    exact ⟨target.name, rfl, hjoined, hslash, mt (PosixPath.name_eq_empty_iff hnames).1 hne, hdash⟩

theorem names_document_twoCompilers :
    (∀ n ∈ twoCompilers.workingDirectory, IsEntryName n) ∧
      ∃ sp ∈ ((compile (searching "/bin") "doc/a.tex").run (still twoCompilers) ()).spawns,
        ∃ before target, twoCompilers.resolve "doc/a.tex" = .ok target ∧
          sp.NamesDocument before target := by
  have hcwd : ∀ n ∈ twoCompilers.workingDirectory, IsEntryName n := fun _ h => nomatch h
  obtain ⟨sp, hsp⟩ := exists_spawn_twoCompilers
  obtain ⟨target, executable, t, hr, -, -, -, -, -, -, hiff⟩ :=
    names_document_iff (w := still twoCompilers) hcwd hsp
  have htarget : target = ⟨.root, ["doc", "a.tex"]⟩ :=
    Except.ok.inj (hr.symm.trans (resolve_of_targetOn targetOn_twoCompilers))
  refine ⟨hcwd, sp, hsp, _, target, hr, hiff.2 ?_⟩
  rw [htarget]
  exact ⟨List.cons_ne_nil _ _, by decide⟩

section Dashed

def dashed : Host := .atRoot ⟨[(["texi2dvi"], .tool "true"), (["-x.tex"], .file [] 0o644)]⟩

def compilingAtRoot : Context :=
  ⟨{ Settings.default with program := "/texi2dvi" }, .ofLevel "none" false, .empty, .posix⟩

theorem targetOn_dashed : targetOn dashed "./-x.tex" = .ok ⟨.root, ["-x.tex"]⟩ := by
  have hplain : dashed.files.HasPlain [] ["-x.tex"] (.file [] 0o644) := by decide
  exact targetOn_of_resolve (Host.resolve_atRoot (by decide) (by decide) hplain (by decide))

theorem executableOn_dashed : executableOn compilingAtRoot dashed = some (.ofText "/texi2dvi") := by
  have hplain : dashed.files.HasPlain [] ["texi2dvi"] (.tool "true") := by decide
  exact executableOn_of_slash (by decide) (Host.isProgram_atRoot hplain (by decide) (by decide) rfl)

/-- The dot in front of a path does not keep its name from becoming an option. -/
theorem option_names_dashed :
    ∃ sp ∈ ((compile compilingAtRoot "./-x.tex").run (still dashed) ()).spawns,
      sp.command = ["/texi2dvi", "--pdf", "--quiet", "-x.tex"] ∧
      ∀ before target, ¬sp.NamesDocument before target := by
  have hfault : planFault? compilingAtRoot dashed = none :=
    planFault?_of_hasWorkingDirectory rfl rfl compilingAtRoot
  rw [spawns_compile_still targetOn_dashed executableOn_dashed hfault rfl]
  refine ⟨_, .head _, by decide, ?_⟩
  rintro before target ⟨word, h⟩
  have hcommand : ["/texi2dvi", "--pdf", "--quiet"] ++ ["-x.tex"] = before ++ [word] := h.command
  obtain rfl := List.singleton_inj.1 (List.append_inj_right' hcommand rfl)
  exact h.not_option (by decide)

end Dashed

end Compile
end Typeset
