import Typeset.Proofs.Compile.ChildEnvironment
import Typeset.Proofs.Compile.Reports
import Typeset.Proofs.FileSystem.Lexical

/-!
# Include flags

The directories of a tree of inputs are given to the compiler twice: as entries of its search paths, and
to a compiler of the alternate distribution on Windows as flags. The two are made apart from each other.
They name the same directories, except that the flags are always written with slashes, and that the
directory of bibliographies has a search path but no flag.
-/

namespace Typeset
open Text

namespace Distribution

theorem occurs_iff_isInfix {w s : List Char} : occurs w s = true ↔ w <:+: s := by
  induction s with
  | nil => rw [occurs, List.isEmpty_iff, List.infix_nil]
  | cons c s ih =>
    rw [occurs, Bool.or_eq_true, ih, List.isPrefixOf_iff_prefix, List.infix_cons_iff]

theorem ofVersionText_eq_alternate_iff {s : String} :
    ofVersionText s = .alternate ↔ "MiKTeX".toList <:+: s.toList := by
  have hmarker : "MiKTeX".toList = marker := by decide
  rw [hmarker, ← occurs_iff_isInfix, ofVersionText]
  split <;> simp_all

end Distribution

theorem toList_forwardSlashes (s : String) :
    (forwardSlashes s).toList = s.toList.map fun c => if c = '\\' then '/' else c := by
  rw [forwardSlashes, replaceChar, String.toList_ofList]

/-- Two more names stand at the end of a text, whatever it begins with. -/
theorem WindowsPath.exists_front (p : WindowsPath) : ∃ front : List Char, ∀ a b, a ≠ "" →
    ((p.child a).child b).toText.toList = front ++ a.toList ++ '\\' :: b.toList := by
  let anchor := p.drive ++ (if p.rooted then "\\" else "")
  let before := p.names.map String.toList
  refine ⟨anchor.toList ++ if before = [] then [] else joinWith '\\' before ++ ['\\'], ?_⟩
  intro a b ha
  have hjoin : (join '\\' ((p.child a).child b).names).toList =
      (if before = [] then [] else joinWith '\\' before ++ ['\\']) ++ a.toList ++ '\\' :: b.toList := by
    have hne : before ++ [a.toList] ≠ [] := by simp
    have hnames : ((p.child a).child b).names.map String.toList = before ++ [a.toList] ++ [b.toList] := by
      simp [before]
    rw [join, String.toList_ofList, hnames, joinWith_concat hne]
    split
    next h => simp [h]
    next h => rw [joinWith_concat h]; simp
  have htext : anchor ++ join '\\' ((p.child a).child b).names ≠ "" := by
    intro h
    have hlist := congrArg String.toList h
    rw [String.toList_append, hjoin] at hlist
    simp at hlist
  show (if anchor ++ join '\\' ((p.child a).child b).names = "" then "."
    else anchor ++ join '\\' ((p.child a).child b).names).toList = _
  rw [if_neg htext, String.toList_append, hjoin]
  simp only [List.append_assoc]

namespace SearchPath

/-- The directory that a search path was composed of. -/
def directory? (v : SearchPath) : Option String := v.segments[1]?

theorem directory?_extending (name : String) (d : PlatformPath) (env : Variables) (p : Platform) :
    (extending name d env p false).directory? = some d.toText := by
  rw [directory?, extending, Bool.and_false]
  rfl

theorem directory?_extending_slashes (name : String) (d : PlatformPath) (env : Variables) :
    (extending name d env .windows true).directory? = some (forwardSlashes d.toText) := rfl

end SearchPath

theorem compilerArguments_cases (distribution : Distribution) (platform : Platform)
    (tree : Option Texmf) :
    (compilerArguments distribution platform tree = ["--pdf", "--quiet"] ∧
      ¬(platform = .windows ∧ tree.isSome = true ∧ distribution = .alternate)) ∨
    ∃ t, platform = .windows ∧ tree = some t ∧ distribution = .alternate ∧
      compilerArguments distribution platform tree =
        ["--pdf", "--quiet", "-I", forwardSlashes t.latex.toText, "-I",
          forwardSlashes t.styles.toText] := by
  cases platform <;> cases distribution <;> cases tree <;> simp [compilerArguments]

/-- What holds of the words and of the two directories, holds of all arguments. -/
theorem forall_mem_compilerArguments {q : String → Prop} {distribution : Distribution}
    {platform : Platform} {tree : Option Texmf} (h : ∀ a ∈ ["--pdf", "--quiet", "-I"], q a)
    (ht : ∀ t, tree = some t → q (forwardSlashes t.latex.toText) ∧ q (forwardSlashes t.styles.toText)) :
    ∀ a ∈ compilerArguments distribution platform tree, q a := by
  obtain ⟨hpdf, hquiet, hflag, -⟩ : q "--pdf" ∧ q "--quiet" ∧ q "-I" ∧ _ := by
    simpa only [List.forall_mem_cons] using h
  rcases compilerArguments_cases distribution platform tree with ⟨hc, -⟩ | ⟨t, -, htree, -, hc⟩
  · rw [hc]
    simp [hpdf, hquiet]
  · obtain ⟨hlatex, hstyles⟩ := ht t htree
    rw [hc]
    simp [hpdf, hquiet, hflag, hlatex, hstyles]

namespace Texmf

/-- The names of the three directories are told apart by how they end and how long they are. -/
theorem exists_front_below (tree : WindowsPath) : ∃ front : List Char,
    (below (.windows tree)).latex.toText.toList = front ++ "tex\\latex".toList ∧
      (below (.windows tree)).bibliographies.toText.toList = front ++ "bibtex\\bib".toList ∧
      (below (.windows tree)).styles.toText.toList = front ++ "bibtex\\bst".toList := by
  obtain ⟨front, h⟩ := tree.exists_front
  have hend (a b : String) (ha : a ≠ "") :
      ((tree.child a).child b).toText.toList = front ++ (a.toList ++ '\\' :: b.toList) := by
    rw [h a b ha, List.append_assoc]
  exact ⟨front, hend "tex" "latex" (by decide), hend "bibtex" "bib" (by decide),
    hend "bibtex" "bst" (by decide)⟩

/-- No argument of the compiler shows the directory of bibliographies, with backslashes or without. -/
theorem bibliographies_not_isInfix (tree : WindowsPath) (distribution : Distribution) :
    ∀ a ∈ compilerArguments distribution .windows (some (below (.windows tree))),
      ∀ d ∈ [(below (.windows tree)).bibliographies.toText,
        forwardSlashes (below (.windows tree)).bibliographies.toText], ¬ d.toList <:+: a.toList := by
  obtain ⟨front, hlatex, hbibliographies, hstyles⟩ := exists_front_below tree
  have hd : ∀ d ∈ [(below (.windows tree)).bibliographies.toText,
      forwardSlashes (below (.windows tree)).bibliographies.toText],
      d.toList.length = front.length + 10 ∧ d.toList.getLast? = some 'b' := by
    rw [List.forall_mem_cons, List.forall_mem_singleton, toList_forwardSlashes, hbibliographies]
    simp
  have hstyles : (forwardSlashes (below (.windows tree)).styles.toText).toList.length =
        front.length + 10 ∧
      (forwardSlashes (below (.windows tree)).styles.toText).toList.getLast? = some 't' := by
    rw [toList_forwardSlashes, hstyles]
    simp
  have hlatex : (forwardSlashes (below (.windows tree)).latex.toText).toList.length =
      front.length + 9 := by
    rw [toList_forwardSlashes, hlatex]
    simp
  apply forall_mem_compilerArguments
  · intro a ha d hm hinfix
    have hlength := hinfix.length_le
    rw [(hd d hm).1] at hlength
    have hwords : ∀ a ∈ ["--pdf", "--quiet", "-I"], a.toList.length ≤ 7 := by decide
    have := hwords a ha
    omega
  · rintro t ⟨⟩
    constructor
    · intro d hm hinfix
      have hlength := hinfix.length_le
      rw [(hd d hm).1, hlatex] at hlength
      omega
    · intro d hm hinfix
      have hsame := hinfix.eq_of_length ((hd d hm).1.trans hstyles.1.symm)
      have hlast := (hd d hm).2
      rw [hsame, hstyles.2] at hlast
      cases hlast

theorem exists_of_locate {h : Host} {platform : Platform} {share : Option String} {t : Texmf}
    (ht : locate h platform share = some t) : ∃ text, t = below (.ofText platform text) := by
  cases share with
  | none => cases ht
  | some share =>
    simp only [locate] at ht
    split at ht
    · split at ht
      · exact ⟨_, (Option.some.inj ht).symm⟩
      · cases ht
    · cases ht

end Texmf

namespace Compile
open Job

/-- The arguments of a plan agree with the output of the probe and with the search paths that the plan
composes. -/
structure FlagsAgree (ctx : Context) (h : Host) (output : String) (p : Plan) : Prop where
  shape : p.arguments = ["--pdf", "--quiet"] ∨
    ∃ t b, p.arguments = ["--pdf", "--quiet", "-I", t, "-I", b]
  included_iff : "-I" ∈ p.arguments ↔
    ctx.platform = .windows ∧ (treeOn ctx h).isSome = true ∧ "MiKTeX".toList <:+: output.toList
  slashes : ∀ a ∈ p.arguments, '\\' ∉ a.toList
  /-- The directories of the flags are those of two of the search paths, and that of the third is shown
  by no argument, however its backslashes are written. -/
  directories : ∀ t b, p.arguments = ["--pdf", "--quiet", "-I", t, "-I", b] →
    ∃ latex bibliographies styles : SearchPath,
      searchPaths (treeOn ctx h) ctx.environment ctx.platform = [latex, bibliographies, styles] ∧
      latex.name = "TEXINPUTS" ∧ bibliographies.name = "BIBINPUTS" ∧ styles.name = "BSTINPUTS" ∧
      (∀ v ∈ [latex, bibliographies, styles], p.environment.get? v.name = some v.value) ∧
      latex.directory? = some t ∧ styles.directory?.map forwardSlashes = some b ∧
      ∃ d, bibliographies.directory? = some d ∧
        ∀ a ∈ p.arguments, ∀ shown ∈ [d, forwardSlashes d], ¬ shown.toList <:+: a.toList

section Agreement
variable (ctx : Context) (h : Host)

theorem get?_overlayOn_searchPath {t : Texmf} {v : SearchPath}
    (hv : v ∈ searchPaths (some t) ctx.environment ctx.platform) :
    (overlayOn ctx h (some t)).get? v.name = some v.value :=
  Variables.get?_of_mem (nodup_names_compilerOverlay _ _ _ _ _) (mem_overlayOn_of_searchPath ctx h hv)

theorem backslash_notMem_arguments (distribution : Distribution) (platform : Platform)
    (tree : Option Texmf) : ∀ a ∈ compilerArguments distribution platform tree, '\\' ∉ a.toList := by
  apply forall_mem_compilerArguments
  · decide
  · intro t _
    exact ⟨backslash_notMem_forwardSlashes _, backslash_notMem_forwardSlashes _⟩

/-- On Windows the search paths of a tree are those that the flags are taken from. -/
theorem exists_searchPaths {t : Texmf} (hw : ctx.platform = .windows) (ht : treeOn ctx h = some t)
    (distribution : Distribution) : ∃ latex bibliographies styles : SearchPath,
      searchPaths (treeOn ctx h) ctx.environment ctx.platform = [latex, bibliographies, styles] ∧
      latex.name = "TEXINPUTS" ∧ bibliographies.name = "BIBINPUTS" ∧ styles.name = "BSTINPUTS" ∧
      (∀ v ∈ [latex, bibliographies, styles],
        (overlayOn ctx h (treeOn ctx h)).get? v.name = some v.value) ∧
      latex.directory? = some (forwardSlashes t.latex.toText) ∧
      styles.directory?.map forwardSlashes = some (forwardSlashes t.styles.toText) ∧
      ∃ d, bibliographies.directory? = some d ∧
        ∀ a ∈ compilerArguments distribution ctx.platform (treeOn ctx h),
          ∀ shown ∈ [d, forwardSlashes d], ¬ shown.toList <:+: a.toList := by
  obtain ⟨text, hbelow⟩ := Texmf.exists_of_locate ht
  have hvalues : ∀ v ∈ searchPaths (some t) ctx.environment ctx.platform,
      (overlayOn ctx h (some t)).get? v.name = some v.value :=
    fun v hv => get?_overlayOn_searchPath ctx h hv
  rw [ht]
  rw [hw] at hvalues hbelow ⊢
  refine ⟨_, _, _, rfl, rfl, rfl, rfl, hvalues, SearchPath.directory?_extending_slashes _ _ _, ?_, _,
    SearchPath.directory?_extending _ _ _ _, ?_⟩
  · rw [SearchPath.directory?_extending, Option.map_some]
  · rw [hbelow]
    exact Texmf.bibliographies_not_isInfix _ _

theorem flagsAgree_planOn (executable target : PosixPath) (output : String) :
    FlagsAgree ctx h output
      (planOn ctx h executable ⟨output, .ofVersionText output⟩ target) := by
  have harguments : (planOn ctx h executable ⟨output, .ofVersionText output⟩ target).arguments =
      compilerArguments (.ofVersionText output) ctx.platform (treeOn ctx h) := rfl
  have hslashes := backslash_notMem_arguments (.ofVersionText output) ctx.platform (treeOn ctx h)
  rcases compilerArguments_cases (.ofVersionText output) ctx.platform (treeOn ctx h) with
    ⟨hc, hn⟩ | ⟨t, hw, ht, hd, hc⟩
  · refine ⟨.inl hc, ?_, hslashes, ?_⟩
    · rw [harguments, hc, ← Distribution.ofVersionText_eq_alternate_iff]
      exact iff_of_false (by decide) hn
    · intro l b hlb
      rw [harguments, hc] at hlb
      simp at hlb
  · refine ⟨.inr ⟨_, _, hc⟩, ?_, hslashes, ?_⟩
    · have htree : (treeOn ctx h).isSome = true := by rw [ht, Option.isSome_some]
      rw [harguments, hc, ← Distribution.ofVersionText_eq_alternate_iff]
      exact iff_of_true (by simp) ⟨hw, htree, hd⟩
    · intro l b hlb
      rw [harguments, hc] at hlb
      obtain ⟨rfl, rfl⟩ : forwardSlashes t.latex.toText = l ∧ forwardSlashes t.styles.toText = b := by
        simpa using hlb
      exact exists_searchPaths ctx h hw ht _

end Agreement

/-- What becomes of a plan: the compiler is started by it, or it is shown. -/
structure CarriesOut (ctx : Context) (p : Plan) {σ : Type} (t : Trace σ (Except Fault Verdict)) :
    Prop where
  of_real : ctx.console.dryRun = false → t.spawns = [spawnOf ctx p]
  of_dry : ctx.console.dryRun = true → t.spawns = [] ∧
    ∃ before, t.writes = before ++ (planLines p).flatMap ctx.console.dry

/-- In every compile that reaches its plan, the flags agree with the search paths and with what the probe
wrote to its output. What it wrote to its error stream has no part in it. -/
theorem include_flags_agree {σ : Type} {w : World σ} {s : σ} {ctx : Context} {path : String}
    {target : PosixPath} {p : Plan}
    (h : (attempt w s (preparation ctx path)).answer = .ok (target, p)) :
    CarriesOut ctx p ((compile ctx path).run w s) ∧
      ∃ executable output errors, executableOn ctx (w.host s) = some executable ∧
        (w.probe (probeCall ctx executable) s).1 = .finished 0 output errors ∧
        FlagsAgree ctx (w.host (afterProbe w s ctx executable)) output p := by
  have hp := prepared_preparation w s ctx path
  rcases ha : attempt w s (preparation ctx path) with ⟨answer, s', es⟩
  rw [ha] at h hp
  obtain rfl : answer = .ok (target, p) := h
  constructor
  · constructor
    · exact spawns_compile_real ha
    · exact fun hd => ⟨spawns_compile_dry ha hd, _, writes_compile_dry ha hd⟩
  · cases hp with
    | planned ht hf hj =>
      obtain ⟨output, errors, ho, rfl⟩ := Probe.judge_eq_ok_iff.1 hj
      exact ⟨_, output, errors, hf, ho, flagsAgree_planOn ctx _ _ _ output⟩

section Equipped
open FileSystem

/-- A host with a document, a compiler, and a share directory with a tree of inputs. -/
def equipped : Host := .atRoot
  ⟨[(["a.tex"], .file [] 0o644), (["share"], .directory), (["share", "texmf"], .directory),
    (["texi2dvi"], .tool "true")]⟩

def sharing : Context :=
  ⟨{ Settings.default with program := "/texi2dvi", shareDirectory := some "/share" },
    .ofLevel "none" false, .empty, .windows⟩

/-- A world that stays as it is, where every probe finds a compiler that writes the same texts. -/
def answering (h : Host) (output errors : String) : World Unit :=
  { still h with probe := fun _ _ => (.finished 0 output errors, ()) }

theorem targetOn_equipped : targetOn equipped "a.tex" = .ok ⟨.root, ["a.tex"]⟩ := by
  have hplain : equipped.files.HasPlain [] ["a.tex"] (.file [] 0o644) := by decide
  exact targetOn_of_resolve (Host.resolve_atRoot (by decide) (by decide) hplain (by decide))

theorem executableOn_equipped : executableOn sharing equipped = some (.ofText "/texi2dvi") := by
  have hplain : equipped.files.HasPlain [] ["texi2dvi"] (.tool "true") := by decide
  exact executableOn_of_slash (by decide) (Host.isProgram_atRoot hplain (by decide) (by decide) rfl)

theorem isDirectory_equipped :
    equipped.isDirectory "/share" = true ∧ equipped.isDirectory "/share/texmf" = true := by
  have hshare : equipped.files.HasPlain [] ["share"] .directory := by decide
  have htexmf : equipped.files.HasPlain [] ["share", "texmf"] .directory := by decide
  exact ⟨isDirectory_iff.2 ⟨_, hshare.locate_of_absolute (by decide) (by decide), rfl⟩,
    isDirectory_iff.2 ⟨_, htexmf.locate_of_absolute (by decide) (by decide), rfl⟩⟩

theorem treeOn_equipped :
    treeOn sharing equipped = some (.below (.windows ⟨"", true, ["share", "texmf"]⟩)) := by
  have hchosen : Texmf.shareDirectory? sharing.settings.shareDirectory sharing.environment =
      some "/share" := rfl
  have hbelow : (Texmf.treeBelow equipped "/share").toText = "/share/texmf" := by decide
  have hread : PlatformPath.ofText sharing.platform "/share/texmf" =
      .windows ⟨"", true, ["share", "texmf"]⟩ := by decide
  rw [treeOn, hchosen]
  simp only [Texmf.locate, hbelow, hread]
  simp [isDirectory_equipped]

/-- The name of the distribution may stand anywhere in what the probe wrote. -/
theorem include_flags_agree_equipped :
    ∃ target p, (attempt (answering equipped "dvi (MiKTeX)" "") ()
        (preparation sharing "a.tex")).answer = .ok (target, p) ∧
      p.arguments = ["--pdf", "--quiet", "-I", "/share/texmf/tex/latex", "-I",
        "/share/texmf/bibtex/bst"] ∧
      FlagsAgree sharing equipped "dvi (MiKTeX)" p := by
  have hplanned := congrArg Trace.answer (attempt_preparation_of_planned
    (w := answering equipped "dvi (MiKTeX)" "") (s := ()) targetOn_equipped executableOn_equipped rfl
    (planFault?_of_hasWorkingDirectory rfl rfl sharing))
  obtain ⟨-, executable, output, errors, hf, ho, hagree⟩ := include_flags_agree hplanned
  obtain ⟨-, rfl, -⟩ := Probe.Outcome.finished.inj ho
  refine ⟨_, _, hplanned, ?_, hagree⟩
  show compilerArguments _ _ (treeOn sharing equipped) = _
  rw [treeOn_equipped]
  decide

end Equipped

end Compile
end Typeset
