import Typeset.Proofs.Compile.Course
import Typeset.Proofs.Host.AtRoot

/-!
# The environment of the compiler

The compiler runs in the environment of the context, with the variables of the plan laid over it.
`Composes` says what that leaves of the one and adds of the other, for every name. The input variables
are composed from the environment of the context as it is when the compile begins, and nothing that a
compile does changes it for the next one.
-/

namespace Typeset

open Text

/-- The names that are laid over the environment of a run. -/
def laidOver (platform : Platform) (tree : Option Texmf) : List String :=
  (if tree.isSome then ["TEXINPUTS", "BIBINPUTS", "BSTINPUTS"] else []) ++
    (if platform = .posix then ["TEXINDY", "LC_COLLATE"] else []) ++ ["PDFLATEX"]

theorem names_compilerOverlay (h : Host) (tree : Option Texmf) (env : Variables)
    (platform : Platform) (scripts : PosixPath) :
    (compilerOverlay h tree env platform scripts).pairs.map Prod.fst = laidOver platform tree := by
  cases tree <;> cases platform <;> rfl

/-- The entries of a search path: what the environment holds, a directory, and an empty entry. -/
def Variables.entries (env : Variables) (name : String) (d : PlatformPath) : List String :=
  let held := match env.get? name with
    | none => "."
    | some a => if a = "" then "." else a
  [held, d.toText, ""]

theorem SearchPath.value_extending (name : String) (d : PlatformPath) (env : Variables)
    (platform : Platform) (slashes : Bool) :
    (extending name d env platform slashes).value =
      join platform.separator (if platform.isWindows && slashes then
        (env.entries name d).map forwardSlashes else env.entries name d) := by
  have hheld : ambient env name = match env.get? name with
      | none => "."
      | some a => if a = "" then "." else a := by
    rw [ambient, Variables.nonEmpty?]
    cases env.get? name with
    | none => rfl
    | some a => by_cases ha : a = "" <;> simp [ha, Option.filter]
  simp only [value, extending, hheld, Variables.entries]

namespace Compile
open Job

/-- The directory of the wrapper scripts: the configured one, or the one that is shipped. -/
def scriptsOn (ctx : Context) (h : Host) : PosixPath :=
  ctx.settings.scriptsDirectory.getD h.scripts

/-- An environment is that of the context with the documented variables laid over it. -/
structure Composes (ctx : Context) (h : Host) (env : Variables) : Prop where
  ambient : ∀ name ∉ laidOver ctx.platform (treeOn ctx h),
    env.get? name = ctx.environment.get? name
  wrapper : ∃ p : PosixPath, p.isAbsolute = true ∧
    p = (h.absolute (scriptsOn ctx h)).child ("texpdf-pdflatex" ++ ctx.platform.scriptSuffix) ∧
    env.get? "PDFLATEX" = some p.toText
  settings : ctx.platform = .posix →
    env.get? "TEXINDY" = some "false" ∧ env.get? "LC_COLLATE" = some "C"
  /-- On Windows the one variable of LaTeX inputs is written with slashes. -/
  inputs : ∀ t, treeOn ctx h = some t →
    let entries := ctx.environment.entries
    let composed := join ctx.platform.separator
    env.get? "TEXINPUTS" = some (composed (if ctx.platform = .windows then
      (entries "TEXINPUTS" t.latex).map forwardSlashes else entries "TEXINPUTS" t.latex)) ∧
    env.get? "BIBINPUTS" = some (composed (entries "BIBINPUTS" t.bibliographies)) ∧
    env.get? "BSTINPUTS" = some (composed (entries "BSTINPUTS" t.styles))
  untouched : treeOn ctx h = none → ∀ name ∈ ["TEXINPUTS", "BIBINPUTS", "BSTINPUTS"],
    env.get? name = ctx.environment.get? name

section Overlay
variable (ctx : Context) (h : Host) {tree : Option Texmf} {name value : String}

theorem get?_laid_of_mem (hm : (name, value) ∈ (overlayOn ctx h tree).pairs) :
    (ctx.environment.overlay (overlayOn ctx h tree)).get? name = some value := by
  have hn : ((overlayOn ctx h tree).pairs.map Prod.fst).Nodup :=
    nodup_names_compilerOverlay _ _ _ _ _
  rw [Variables.get?_overlay _ hn, Variables.get?_of_mem hn hm, Option.some_or]

theorem get?_laid_of_notMem (hm : name ∉ laidOver ctx.platform tree) :
    (ctx.environment.overlay (overlayOn ctx h tree)).get? name = ctx.environment.get? name := by
  have hn : ((overlayOn ctx h tree).pairs.map Prod.fst).Nodup :=
    nodup_names_compilerOverlay _ _ _ _ _
  have hnone : (overlayOn ctx h tree).get? name = none := by
    apply Variables.get?_eq_none_of_notMem
    rw [overlayOn, names_compilerOverlay]
    exact hm
  rw [Variables.get?_overlay _ hn, hnone, Option.none_or]

theorem mem_overlayOn_of_searchPath {t : Texmf} {v : SearchPath}
    (hv : v ∈ searchPaths (some t) ctx.environment ctx.platform) :
    (v.name, v.value) ∈ (overlayOn ctx h (some t)).pairs := by
  apply List.mem_append_left
  apply List.mem_append_left
  exact List.mem_map_of_mem (f := fun v => (v.name, v.value)) hv

theorem get?_laid_searchPath {t : Texmf} {v : SearchPath}
    (hv : v ∈ searchPaths (some t) ctx.environment ctx.platform) :
    (ctx.environment.overlay (overlayOn ctx h (some t))).get? v.name = some v.value :=
  get?_laid_of_mem ctx h (mem_overlayOn_of_searchPath ctx h hv)

theorem get?_laid_setting (hm : (name, value) ∈ posixSettings ctx.platform) :
    (ctx.environment.overlay (overlayOn ctx h tree)).get? name = some value := by
  apply get?_laid_of_mem
  apply List.mem_append_left
  apply List.mem_append_right
  exact hm

theorem get?_laid_wrapper :
    (ctx.environment.overlay (overlayOn ctx h tree)).get? "PDFLATEX" =
      some (h.absolute (wrapperScript ctx.platform (scriptsOn ctx h))).toText := by
  apply get?_laid_of_mem
  apply List.mem_append_right
  exact .head _

theorem composes_overlay :
    Composes ctx h (ctx.environment.overlay (overlayOn ctx h (treeOn ctx h))) where
  ambient name hn := get?_laid_of_notMem ctx h hn
  wrapper := by
    have hname : "texpdf-pdflatex" ++ ctx.platform.scriptSuffix ≠ ".." := by
      cases ctx.platform <;> decide
    exact ⟨_, PosixPath.isAbsolute_absolute rfl _, PosixPath.absolute_child _ _ hname,
      get?_laid_wrapper ctx h⟩
  settings hp := by
    constructor
    · apply get?_laid_setting
      rw [hp]
      exact .head _
    · apply get?_laid_setting
      rw [hp]
      exact .tail _ (.head _)
  inputs t ht := by
    have hl := get?_laid_searchPath ctx h (t := t) (.head _)
    have hb := get?_laid_searchPath ctx h (t := t) (.tail _ (.head _))
    have hs := get?_laid_searchPath ctx h (t := t) (.tail _ (.tail _ (.head _)))
    simp only [SearchPath.name_extending, SearchPath.value_extending, Bool.and_true,
      Bool.and_false, Bool.false_eq_true, if_false, Platform.isWindows, decide_eq_true_eq]
      at hl hb hs
    rw [ht]
    exact ⟨hl, hb, hs⟩
  untouched ht name hn := by
    apply get?_laid_of_notMem
    rw [ht]
    simp only [List.mem_cons, List.not_mem_nil, or_false] at hn
    rcases hn with rfl | rfl | rfl <;> cases ctx.platform <;> decide

end Overlay

section TwoCompilers
open FileSystem

/-- A host with a compiler below the working directory, and with another one below the directory of a
document. -/
def twoCompilers : Host := .atRoot
  ⟨[(["bin"], .directory), (["bin", "texi2dvi"], .tool "true"), (["doc"], .directory),
    (["doc", "a.tex"], .file [] 0o644), (["doc", "bin"], .directory),
    (["doc", "bin", "texi2dvi"], .tool "false")]⟩

def searching (searchPath : String) : Context :=
  ⟨.default, .ofLevel "none" false, ⟨[("PATH", searchPath)]⟩, .posix⟩

theorem hasPlain_bin :
    twoCompilers.files.HasPlain [] ["bin", "texi2dvi"] (.tool "true") := by decide

theorem targetOn_twoCompilers :
    targetOn twoCompilers "doc/a.tex" = .ok ⟨.root, ["doc", "a.tex"]⟩ := by
  have hdoc : twoCompilers.files.HasPlain [] ["doc", "a.tex"] (.file [] 0o644) := by decide
  exact targetOn_of_resolve (Host.resolve_atRoot (by decide) (by decide) hdoc (by decide))

theorem planFault?_twoCompilers (ctx : Context) : planFault? ctx twoCompilers = none :=
  planFault?_of_hasWorkingDirectory rfl rfl ctx

theorem executableOn_searching {directory found : String} {file : Location}
    (hd : split ':' directory = [directory]) (hne : directory ≠ "")
    (hjoin : Host.joinPath directory "texi2dvi" = found)
    (hl : twoCompilers.files.locate [] found = .ok file)
    (hp : twoCompilers.files.hasProgram file = true) :
    executableOn (searching directory) twoCompilers = some (.ofText found) := by
  have hpath : twoCompilers.searchPath (some (searching directory).environment) = directory := by
    simp [Host.searchPath, searching, Variables.get?]
  have hprogram : (searching directory).settings.program = "texi2dvi" := rfl
  have hfound : twoCompilers.isProgram found = true := isProgram_iff.2 ⟨file, hl, hp⟩
  simp [executableOn, Host.findProgram?, hpath, hprogram, hne, hd, Host.searchDirectories, hjoin,
    hfound]

theorem executableOn_root_bin :
    executableOn (searching "/bin") twoCompilers = some (.ofText "/bin/texi2dvi") :=
  executableOn_searching (by decide) (by decide) (by decide)
    (hasPlain_bin.locate_of_absolute (by decide) (by decide)) rfl

theorem exists_spawn_twoCompilers :
    ∃ sp, sp ∈ ((compile (searching "/bin") "doc/a.tex").run (still twoCompilers) ()).spawns := by
  rw [spawns_compile_still targetOn_twoCompilers executableOn_root_bin (planFault?_twoCompilers _) rfl]
  exact ⟨_, .head _⟩

end TwoCompilers

/-- Every child of a compile has the environment of the context with the documented variables laid over
it. Of several compiles of one context each finds that environment as the first one did. -/
theorem child_environment_composes {σ : Type} (w : World σ) (s : σ) (ctx : Context) :
    (∀ path, ∀ sp ∈ ((compile ctx path).run w s).spawns,
      ∃ executable, executableOn ctx (w.host s) = some executable ∧
        Composes ctx (w.host (afterProbe w s ctx executable)) sp.environment) ∧
    ∀ paths, ∀ sp ∈ (runAll w s (compileMany ctx paths)).spawns,
      ∃ s' executable, executableOn ctx (w.host s') = some executable ∧
        Composes ctx (w.host (afterProbe w s' ctx executable)) sp.environment := by
  have hone : ∀ s path, ∀ sp ∈ ((compile ctx path).run w s).spawns,
      ∃ executable, executableOn ctx (w.host s) = some executable ∧
        Composes ctx (w.host (afterProbe w s ctx executable)) sp.environment := by
    intro s path sp hsp
    obtain ⟨target, executable, t, -, hf, -, hspawns⟩ := exists_plan_of_mem_spawns hsp
    rw [hspawns] at hsp
    obtain rfl := List.mem_singleton.1 hsp
    exact ⟨executable, hf, composes_overlay ctx _⟩
  refine ⟨hone s, ?_⟩
  intro paths sp hsp
  obtain ⟨j, hj, s', hs⟩ := exists_of_mem_spawns_runAll hsp
  obtain ⟨path, -, rfl⟩ := List.mem_map.1 hj
  obtain ⟨executable, hf, hc⟩ := hone s' path sp hs
  exact ⟨s', executable, hf, hc⟩

theorem child_environment_composes_twoCompilers :
    ∃ sp ∈ ((compile (searching "/bin") "doc/a.tex").run (still twoCompilers) ()).spawns,
      Composes (searching "/bin") twoCompilers sp.environment := by
  obtain ⟨sp, hsp⟩ := exists_spawn_twoCompilers
  obtain ⟨_, _, hc⟩ := (child_environment_composes (still twoCompilers) () (searching "/bin")).1
    "doc/a.tex" sp hsp
  exact ⟨sp, hsp, hc⟩

end Compile
end Typeset
