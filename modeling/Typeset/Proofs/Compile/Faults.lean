import Typeset.Proofs.Compile.ChildEnvironment
import Typeset.Proofs.Compile.Reports
import Typeset.Proofs.Config.ProbeTimeout

/-!
# What a compile does not report

A compile turns what goes wrong into a verdict with a report. In a world that answers every request
with a result or a refusal few things are left out: a path that the system cannot be asked about, and a
host on which no plan can be made, because its working directory is gone or a text has no code. These are
faults, which end the compile without a verdict and without a report.
-/

namespace Typeset

/-- Requests are answered with a result or with a refusal of the system, and never with a fault. -/
structure World.Answers {σ : Type} (w : World σ) : Prop where
  probe : ∀ c s f, (w.probe c s).1 ≠ .broken f
  launch : ∀ p s f, (w.launch p s).1 ≠ .broken f

namespace Host
variable {h : Host} {path : String}

/-- Why the system cannot be asked about the path of a document: for the user that its tilde names, or for
what it writes with the tilde expanded. -/
def pathFlaw? (h : Host) (path : String) : Option NameFlaw :=
  match h.homes.expand path with
  | .error flaw => some flaw
  | .ok expanded => h.encoding.pathFlaw? expanded

theorem resolve_eq_flawed_iff {flaw : NameFlaw} :
    h.resolve path = .error (.flawed flaw) ↔ h.pathFlaw? path = some flaw := by
  rw [resolve, pathFlaw?]
  cases h.homes.expand path with
  | error f => simp
  | ok expanded =>
    dsimp only
    cases h.encoding.pathFlaw? expanded with
    | some f => simp
    | none =>
      simp only [reduceCtorEq, iff_false]
      split
      · simp
      · split <;> simp

/-- The path of a document holds a NUL, in itself or in the home directory that its tilde stands for. -/
def HoldsNul (h : Host) (path : String) : Prop :=
  ∀ expanded, h.homes.expand path = .ok expanded → '\x00' ∈ expanded.toList

theorem pathFlaw?_eq_some_iff (hcode : h.encoding = .utf8) {flaw : NameFlaw} :
    h.pathFlaw? path = some flaw ↔ flaw = .nul ∧ h.HoldsNul path := by
  rw [pathFlaw?, HoldsNul]
  cases hx : h.homes.expand path with
  | error f =>
    obtain ⟨user, hf⟩ := Homes.exists_flaw?_of_expand_eq_error hx
    have hhomes : h.homes.encoding = .utf8 := hcode
    rw [hhomes] at hf
    obtain rfl := Encoding.eq_nul_of_flaw?_utf8 hf
    simp [eq_comm]
  | ok expanded => simp [hcode, Encoding.pathFlaw?_utf8_eq_some_iff]

end Host

namespace Compile
open Job

variable {σ : Type} {w : World σ} {s : σ} {ctx : Context} {path : String}

theorem targetOn_eq_fault_iff (h : Host) (path : String) (f : Fault) :
    targetOn h path = .error (.fault f) ↔ ∃ flaw, h.pathFlaw? path = some flaw ∧ f = flaw.fault := by
  simp only [← Host.resolve_eq_flawed_iff, targetOn]
  cases hr : h.resolve path with
  | ok p => simp
  | error e =>
    cases e with
    | flawed flaw => simp [eq_comm]
    | noWorkingDirectory => simp
    | linkCircle p => simp

theorem judged_ne_fault (hw : w.Answers) {x : Binary64} (hx : ctx.settings.probeTimeout = .real x)
    (executable : PosixPath) (c : Probe.Call) (s : σ) (f : Fault) :
    judged ctx executable (w.probe c s).1 ≠ .error (.fault f) := by
  rw [judged, hx]
  cases ho : (w.probe c s).1 with
  | finished status output errors => simp only [Probe.judge]; split <;> simp
  | timedOut => simp [Probe.judge]
  | refused e => simp [Probe.judge]
  | broken g => exact absurd ho (hw.probe c s g)

theorem answer_ne_fault (hw : w.Answers) (p : Plan) (c : Spawn) (s : σ) (f : Fault) :
    (w.launch c s).1.answer p ≠ .error (.fault f) := by
  cases hl : (w.launch c s).1 with
  | refused e => simp [Launch.answer]
  | broken g => exact absurd hl (hw.launch c s g)
  | started child => simp [Launch.answer]

theorem answer_carryOut_ne_fault (hw : w.Answers) (target : PosixPath) (p : Plan) (s : σ)
    (f : Fault) : (attempt w s (carryOut ctx target p)).answer ≠ .error (.fault f) := by
  cases hd : ctx.console.dryRun with
  | true => simp [attempt_carryOut_dry w s hd]
  | false =>
    rw [attempt_carryOut_real w s hd]
    exact answer_ne_fault hw p _ s f

theorem verdictOf_eq_error_iff (a : Except Stop Int) (f : Fault) :
    verdictOf a = .error f ↔ a = .error (.fault f) := by
  cases a with
  | ok status => simp [verdictOf]
  | error stop => cases stop <;> simp [verdictOf]

/-- What a compile meets that no failure describes. -/
inductive Baffles (w : World σ) (s : σ) (ctx : Context) (path : String) : Fault → Prop
  | path {flaw : NameFlaw} (h : (w.host s).pathFlaw? path = some flaw) :
      Baffles w s ctx path flaw.fault
  | plan {target executable : PosixPath} {t : Toolchain} {f : Fault}
      (ht : targetOn (w.host s) path = .ok target)
      (hf : executableOn ctx (w.host s) = some executable)
      (hj : judged ctx executable (w.probe (probeCall ctx executable) s).1 = .ok t)
      (hp : planFault? ctx (w.host (afterProbe w s ctx executable)) = some f) :
      Baffles w s ctx path f

theorem answer_preparation_eq_fault_iff (hw : w.Answers) {x : Binary64}
    (hx : ctx.settings.probeTimeout = .real x) (f : Fault) :
    (attempt w s (preparation ctx path)).answer = .error (.fault f) ↔ Baffles w s ctx path f := by
  constructor
  · intro h
    have hp := prepared_preparation w s ctx path
    generalize attempt w s (preparation ctx path) = t at hp h
    cases hp with
    | unresolved ht =>
      cases h
      obtain ⟨flaw, hflaw, rfl⟩ := (targetOn_eq_fault_iff _ path f).1 ht
      exact .path hflaw
    | notFound ht hf => cases h
    | unprobed ht hf hj =>
      cases h
      exact absurd hj (judged_ne_fault hw hx _ _ s f)
    | unlocated ht hf hj hl =>
      cases h
      exact .plan ht hf hj (by rw [planFault?, hl, Option.some_or])
    | uncomposed ht hf hj hl hc =>
      cases h
      exact .plan ht hf hj (by rw [planFault?, hl, hc, Option.none_or])
    | planned ht hf hj hp => cases h
  · intro h
    cases h with
    | path hflaw =>
      rw [attempt_preparation_of_unresolved ((targetOn_eq_fault_iff _ path _).2 ⟨_, hflaw, rfl⟩)]
    | @plan target executable t f ht hf hj hp =>
      rw [planFault?] at hp
      cases hl : treeFault? ctx (w.host (afterProbe w s ctx executable)) with
      | some g =>
        rw [hl, Option.some_or] at hp
        cases hp
        rw [attempt_preparation_of_unlocated ht hf hj hl]
      | none =>
        rw [hl, Option.none_or] at hp
        rw [attempt_preparation_of_uncomposed ht hf hj hl hp]

/-- A fault is met before the compiler is started, and ends the compile with the stages up to it. -/
theorem answer_compile_eq_error_iff (hw : w.Answers) {x : Binary64}
    (hx : ctx.settings.probeTimeout = .real x) (f : Fault) :
    ((compile ctx path).run w s).answer = .error f ↔ Baffles w s ctx path f := by
  rw [← answer_preparation_eq_fault_iff hw hx f, run_compile, reported, verdictOf_eq_error_iff,
    attempt_steps]
  obtain ⟨stop | ⟨target, p⟩, s', es⟩ := attempt w s (preparation ctx path)
  · simp
  · rw [Trace.andThen_ok]
    simpa using answer_carryOut_ne_fault hw target p s' f

/-- A fault is not reported: nothing goes to the error channel, and no child is started. -/
structure Unreported (t : Trace σ (Except Fault Verdict)) : Prop where
  filter_error : t.writes.filter (·.channel = .error) = []
  spawns_eq : t.spawns = []

theorem unreported_of_fault {f : Fault}
    (h : (attempt w s (preparation ctx path)).answer = .error (.fault f)) :
    Unreported ((compile ctx path).run w s) := by
  rcases ha : attempt w s (preparation ctx path) with ⟨answer, s', es⟩
  rw [ha] at h
  cases h
  refine ⟨?_, spawns_compile_stopped ha⟩
  rw [writes_compile_stopped ha]
  exact Console.filter_error_of_isDiagnostic fun a hm =>
    isDiagnostic_of_preparation ha a (by simpa [reportLines] using hm)

/-- On hosts that keep their working directory, and whose names are in UTF-8, only a NUL in the path is a
fault. -/
theorem baffles_iff_of_sound (hhost : ∀ s, (w.host s).hasWorkingDirectory = true ∧
      (w.host s).encoding = .utf8) (f : Fault) :
    Baffles w s ctx path f ↔ f = .nul ∧ (w.host s).HoldsNul path := by
  constructor
  · rintro (h | ⟨-, -, -, hp⟩)
    · obtain ⟨rfl, hn⟩ := (Host.pathFlaw?_eq_some_iff (hhost s).2).1 h
      exact ⟨rfl, hn⟩
    · rw [planFault?_of_hasWorkingDirectory (hhost _).1 (hhost _).2] at hp
      cases hp
  · rintro ⟨rfl, hn⟩
    exact .path ((Host.pathFlaw?_eq_some_iff (hhost s).2).2 ⟨rfl, hn⟩)

/-- With configured settings, a compile whose requests are answered ends in a status or in a failure that
was reported, unless a fault is met. Then, and only then, a fault leaves it, without a report. Where the
working directory is kept and every character has a code, that is exactly a NUL in the path. -/
theorem verdict_iff_not_baffled (hw : w.Answers) {homes : Homes} {data : Config.Mapping} {room : Nat}
    (hs : Settings.ofMapping homes data room = .ok ctx.settings) (s : σ) (path : String) :
    ((∃ status, ((compile ctx path).run w s).answer = .ok (.exited status)) ∨
        (∃ f, ((compile ctx path).run w s).answer = .ok (.failed f)) ↔
      ∀ f, ¬Baffles w s ctx path f) ∧
    (∀ f, Baffles w s ctx path f ↔ ((compile ctx path).run w s).answer = .error f) ∧
    (∀ f, Baffles w s ctx path f → Unreported ((compile ctx path).run w s)) ∧
    ((∀ s, (w.host s).hasWorkingDirectory = true ∧ (w.host s).encoding = .utf8) →
      ∀ f, Baffles w s ctx path f ↔ f = .nul ∧ (w.host s).HoldsNul path) := by
  obtain ⟨x, hx, -⟩ := Settings.probeTimeout_of_ofMapping hs
  have hfault : ∀ f, Baffles w s ctx path f ↔ ((compile ctx path).run w s).answer = .error f :=
    fun f => (answer_compile_eq_error_iff hw hx f).symm
  refine ⟨?_, hfault, fun f h => ?_, fun hhost f => baffles_iff_of_sound hhost f⟩
  · simp only [hfault]
    cases ((compile ctx path).run w s).answer with
    | error f => simp
    | ok v => cases v <;> simp
  · exact unreported_of_fault ((answer_preparation_eq_fault_iff hw hx f).2 h)

section Gone
open FileSystem

def gone : Host := { twoCompilers with workingDirectory := ["gone"] }

def relativeScripts : Context :=
  ⟨{ Settings.default with
      program := "/bin/texi2dvi", scriptsDirectory := some ⟨.relative, ["scripts"]⟩ },
    .ofLevel "none" false, .empty, .posix⟩

theorem baffles_gone :
    Baffles (still gone) () relativeScripts "/doc/a.tex" .noWorkingDirectory := by
  have hplain : gone.files.HasPlain [] ["doc", "a.tex"] (.file [] 0o644) := by decide
  have ht : targetOn gone "/doc/a.tex" = .ok ⟨.root, ["doc", "a.tex"]⟩ :=
    targetOn_of_resolve (Host.resolve_of_absolute (by decide) (by decide) hplain rfl (by decide))
  have hlocate : gone.files.locate gone.workingDirectory "/bin/texi2dvi" = .ok ["bin", "texi2dvi"] :=
    hasPlain_bin.locate_of_absolute (by decide) (by decide)
  have hf : executableOn relativeScripts gone = some (.ofText "/bin/texi2dvi") :=
    executableOn_of_slash (by decide) (isProgram_iff.2 ⟨_, hlocate, rfl⟩)
  have hp : planFault? relativeScripts gone = some .noWorkingDirectory := by decide
  exact .plan ht hf rfl hp

/-- With its working directory a compile gets as far as the launch, whose refusal is reported. Without it a
relative directory of scripts is a fault. -/
theorem verdict_iff_not_baffled_gone :
    (∃ f, ((compile (searching "/bin") "doc/a.tex").run (still twoCompilers) ()).answer =
      .ok (.failed f)) ∧
    ((compile relativeScripts "/doc/a.tex").run (still gone) ()).answer =
      .error .noWorkingDirectory := by
  have hanswers : ∀ h, (still h).Answers := fun h => by constructor <;> rintro _ _ _ ⟨⟩
  constructor
  · have hs : Settings.ofMapping .empty [] = .ok (searching "/bin").settings := rfl
    obtain ⟨hverdict, -, -, hsound⟩ :=
      verdict_iff_not_baffled (hanswers twoCompilers) hs () "doc/a.tex"
    have hno : ∀ f, ¬Baffles (still twoCompilers) () (searching "/bin") "doc/a.tex" f := by
      intro f h
      obtain ⟨-, hn⟩ := (hsound (fun _ => ⟨rfl, rfl⟩) f).1 h
      exact absurd (hn "doc/a.tex" rfl) (by decide)
    rcases hverdict.2 hno with ⟨status, h⟩ | h
    · have hplanned := attempt_preparation_of_planned (w := still twoCompilers) (s := ())
        targetOn_twoCompilers executableOn_root_bin rfl (planFault?_twoCompilers _)
      rw [run_compile_real hplanned rfl] at h
      cases h
    · exact h
  · have hs : Settings.ofMapping .empty [(.text "texpdf", .map [(.text "program",
        .text "/bin/texi2dvi"), (.text "scripts_dir", .text "scripts")])] =
          .ok relativeScripts.settings := rfl
    exact ((verdict_iff_not_baffled (hanswers gone) hs () "/doc/a.tex").2.1 _).1 baffles_gone

/-- A NUL in the path leaves the compile as a fault: there is no verdict and nothing is written. -/
theorem nul_not_reported :
    (¬∃ v, ((compile (searching "/bin") "a\x00.tex").run (still twoCompilers) ()).answer = .ok v) ∧
      ((compile (searching "/bin") "a\x00.tex").run (still twoCompilers) ()).writes = [] := by
  have hflaw : twoCompilers.pathFlaw? "a\x00.tex" = some .nul := by decide
  have ht := (targetOn_eq_fault_iff twoCompilers "a\x00.tex" .nul).2 ⟨_, hflaw, rfl⟩
  rw [run_compile_stopped (attempt_preparation_of_unresolved ht)]
  refine ⟨?_, rfl⟩
  rintro ⟨v, ⟨⟩⟩

end Gone

end Compile
end Typeset
