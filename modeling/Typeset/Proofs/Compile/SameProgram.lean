import Typeset.Proofs.Compile.ChildEnvironment

/-!
# The program that is found, probed and started

The compiler is looked up from the working directory of the process and probed from there, but it is
started from the directory of the document, by the normal form of the path that was found. An absolute
path denotes the same file everywhere. A relative one is a file of its own in every directory, and one
that has lost its slash is looked for in the search path again.
-/

namespace Typeset

namespace Compile
open Job

variable {σ : Type} {w : World σ} {s : σ} {ctx : Context} {path : String} {sp : Spawn}

def compiler? (ctx : Context) (h : Host) : Option Location :=
  h.files.denoted? h.workingDirectory (h.searchPath (some ctx.environment)) ctx.settings.program

/-- What a compile probes, and what it starts from the directory of the document, is the program that
was looked up. -/
def SameProgram (w : World σ) (s : σ) (ctx : Context) (path : String) : Prop :=
  let h := w.host s
  let t := (compile ctx path).run w s
  ∃ file, compiler? ctx h = some file ∧ (∀ c ∈ t.probes, h.probed? c = some file) ∧
    ∀ sp ∈ t.spawns, ∀ dir,
      h.files.locate h.workingDirectory sp.workingDirectory.toText = .ok dir →
      h.started? dir sp = some file

def childSearchPath (ctx : Context) : String :=
  (ctx.environment.get? "PATH").getD Host.defaultSearchPath

theorem probed?_probeCall (h : Host) (executable : PosixPath) :
    h.probed? (probeCall ctx executable) =
      h.files.denoted? h.workingDirectory (h.searchPath none) executable.toText := rfl

theorem started?_spawnOf (h h' : Host) (dir : Location) (executable target : PosixPath)
    (t : Toolchain) :
    h.started? dir (spawnOf ctx (planOn ctx h' executable t target)) =
      h.files.denoted? dir (childSearchPath ctx) executable.toText := by
  have hpath : (spawnOf ctx (planOn ctx h' executable t target)).environment.get? "PATH" =
      ctx.environment.get? "PATH" := by
    apply get?_laid_of_notMem ctx h'
    cases treeOn ctx h' <;> cases ctx.platform <;> simp [laidOver]
  rw [Host.started?, hpath]
  rfl

/-- The probe and the child are started by one word, the normal form of the path that was found. They
run the program that was found if that path is absolute, and so in particular if every place where the
program is looked for is one. Through a relative path with a slash the probe still runs it, and the
child exactly when the path leads there from the directory of the document too. Without a slash, both
run it exactly when the search paths lead there again. -/
theorem same_program_iff (hsp : sp ∈ ((compile ctx path).run w s).spawns) :
    ∃ executable file, let h := w.host s
      let word := executable.toText
      let fromDocument (P : Location → Prop) := ∀ dir,
        h.files.locate h.workingDirectory sp.workingDirectory.toText = .ok dir → P dir
      executableOn ctx h = some executable ∧ compiler? ctx h = some file ∧
      h.files.locate h.workingDirectory word = .ok file ∧
      ((∀ c ∈ Program.candidates ctx.settings.program (h.searchPath (some ctx.environment)),
        c.front = '/') → executable.isAbsolute = true) ∧
      (executable.isAbsolute = true → SameProgram w s ctx path) ∧
      ('/' ∈ word.toList → (SameProgram w s ctx path ↔
        fromDocument fun dir => h.files.locate dir word = .ok file)) ∧
      ('/' ∉ word.toList → (SameProgram w s ctx path ↔
        h.files.denoted? h.workingDirectory (h.searchPath none) word = some file ∧
          fromDocument fun dir => h.files.denoted? dir (childSearchPath ctx) word = some file)) := by
  obtain ⟨target, executable, t, -, hf, hprobes, hspawns⟩ := exists_plan_of_mem_spawns hsp
  rw [hspawns] at hsp
  obtain rfl := List.mem_singleton.1 hsp
  obtain ⟨file, found, hmem, rfl, hfile, hfound⟩ := Host.exists_of_findProgram? hf
  have hat := FileSystem.programAt?_ofText hfile
  obtain ⟨hlocate, hprogram⟩ := FileSystem.programAt?_eq_some_iff.1 hat
  have hsame : SameProgram w s ctx path ↔
      (w.host s).files.denoted? (w.host s).workingDirectory ((w.host s).searchPath none)
          (PosixPath.ofText found).toText = some file ∧
        ∀ dir, (w.host s).files.locate (w.host s).workingDirectory target.parent.toText = .ok dir →
          (w.host s).files.denoted? dir (childSearchPath ctx) (PosixPath.ofText found).toText =
            some file := by
    have hcompiler : compiler? ctx (w.host s) = some file := hfound
    simp only [SameProgram, hprobes, hspawns, List.forall_mem_singleton, hcompiler,
      Option.some.injEq, probed?_probeCall, started?_spawnOf]
    constructor
    · rintro ⟨_, rfl, h⟩
      exact h
    · intro h
      exact ⟨file, rfl, h⟩
  -- with a slash no search path counts, and the probe sees the path from where it was found
  have hslash : '/' ∈ (PosixPath.ofText found).toText.toList → (SameProgram w s ctx path ↔
      ∀ dir, (w.host s).files.locate (w.host s).workingDirectory target.parent.toText = .ok dir →
        (w.host s).files.locate dir (PosixPath.ofText found).toText = .ok file) := by
    intro hs
    simp only [hsame, FileSystem.denoted?_of_slash hs, hat, FileSystem.programAt?_eq_some_iff,
      hprogram, and_true, true_and]
  refine ⟨.ofText found, file, hf, hfound, hlocate, ?_, ?_, hslash, fun _ => hsame⟩
  · intro hall
    exact PosixPath.isAbsolute_ofText.2 (hall found hmem)
  · intro habs
    have hfront := (PosixPath.front_toText_ofText found).2 (PosixPath.isAbsolute_ofText.1 habs)
    rw [hslash (PosixPath.slash_mem_toText_of_isAbsolute habs)]
    intro dir _
    rw [FileSystem.locate_of_front hfront]
    exact hlocate

section TwoCompilers
open FileSystem

/-- Where the directory of programs is absolute, the compiler that was found is the one that runs. -/
theorem same_program_twoCompilers :
    ((compile (searching "/bin") "doc/a.tex").run (still twoCompilers) ()).spawns ≠ [] ∧
      SameProgram (still twoCompilers) () (searching "/bin") "doc/a.tex" := by
  obtain ⟨sp, hsp⟩ := exists_spawn_twoCompilers
  refine ⟨List.ne_nil_of_mem hsp, ?_⟩
  obtain ⟨executable, file, hf, -, -, -, habs, -⟩ := same_program_iff hsp
  have he : some (PosixPath.ofText "/bin/texi2dvi") = some executable :=
    executableOn_root_bin.symm.trans hf
  cases he
  exact habs (by decide)

theorem executableOn_bin : executableOn (searching "bin") twoCompilers = some (.ofText "bin/texi2dvi") :=
  executableOn_searching (by decide) (by decide) (by decide)
    (hasPlain_bin.locate_of_relative (by decide) (by decide)) rfl

theorem denoted?_bin {dir file : Location} (searchPath : String)
    (hl : twoCompilers.files.locate dir "bin/texi2dvi" = .ok file)
    (hp : twoCompilers.files.hasProgram file = true) :
    twoCompilers.files.denoted? dir searchPath (PosixPath.ofText "bin/texi2dvi").toText =
      some file := by
  have htext : (PosixPath.ofText "bin/texi2dvi").toText = "bin/texi2dvi" := by decide
  rw [htext, denoted?_of_slash (by decide)]
  exact programAt?_eq_some_iff.2 ⟨hl, hp⟩

/-- Where it is relative, the compiler below the directory of the document is the one that runs. -/
theorem other_program_twoCompilers :
    ∃ sp ∈ ((compile (searching "bin") "doc/a.tex").run (still twoCompilers) ()).spawns,
      compiler? (searching "bin") twoCompilers = some ["bin", "texi2dvi"] ∧
      twoCompilers.files.locate [] sp.workingDirectory.toText = .ok ["doc"] ∧
      twoCompilers.started? ["doc"] sp = some ["doc", "bin", "texi2dvi"] ∧
      ¬SameProgram (still twoCompilers) () (searching "bin") "doc/a.tex" := by
  have hspawns := spawns_compile_still targetOn_twoCompilers executableOn_bin (planFault?_twoCompilers _) rfl
  have hdoc : twoCompilers.files.locate [] "/doc" = .ok ["doc"] := by
    have hplain : twoCompilers.files.HasPlain [] ["doc"] .directory := by decide
    exact hplain.locate_of_absolute (by decide) (by decide)
  have hother : twoCompilers.files.locate ["doc"] "bin/texi2dvi" = .ok ["doc", "bin", "texi2dvi"] := by
    have hplain : twoCompilers.files.HasPlain ["doc"] ["bin", "texi2dvi"] (.tool "false") := by decide
    exact hplain.locate_of_relative (by decide) (by decide)
  have hcompiler : compiler? (searching "bin") twoCompilers = some ["bin", "texi2dvi"] := by
    have hcandidates : Program.candidates "texi2dvi" "bin" = ["bin/texi2dvi"] := by decide
    have hlocate : twoCompilers.files.locate [] "bin/texi2dvi" = .ok ["bin", "texi2dvi"] :=
      hasPlain_bin.locate_of_relative (by decide) (by decide)
    have hat := programAt?_eq_some_iff.2 ⟨hlocate, rfl⟩
    show (Program.candidates "texi2dvi" "bin").findSome? (twoCompilers.files.programAt? []) = _
    rw [hcandidates, List.findSome?_cons, hat]
  have hdir : (PosixPath.parent ⟨.root, ["doc", "a.tex"]⟩).toText = "/doc" := by decide
  rw [hspawns]
  refine ⟨_, .head _, hcompiler, hdir ▸ hdoc, ?_, ?_⟩
  · rw [started?_spawnOf]
    exact denoted?_bin _ hother rfl
  · rintro ⟨file, hfile, -, hchild⟩
    obtain rfl := Option.some.inj (hcompiler.symm.trans hfile)
    rw [hspawns, List.forall_mem_singleton] at hchild
    have hfound := hchild ["doc"] (hdir ▸ hdoc)
    rw [started?_spawnOf] at hfound
    have heq := Option.some.inj (hfound.symm.trans (denoted?_bin _ hother rfl))
    exact absurd heq (by decide)

end TwoCompilers

end Compile
end Typeset
