import Typeset.Proofs.Compile.Concurrency
import Typeset.Proofs.Compile.DryRun
import Typeset.Proofs.Compile.Reports
import Typeset.Proofs.Compile.Stages

/-!
# The level of the console

The level decides which lines of its log a compile writes, and nothing else. What a compile does is told
for all consoles at once: two stretches of log, which grow with the level, lie around texts that no
level filters, and all the rest is the same on every console.
-/

namespace Typeset

namespace Console

/-- A line that the level lets pass. -/
def IsLog (c : Console) (a : Write) : Prop := ∃ message, a ∈ c.debug message ∨ a ∈ c.info message

theorem IsLog.channel_eq {c : Console} {a : Write} (h : c.IsLog a) : a.channel = .output := by
  obtain ⟨message, h⟩ := h
  exact IsDiagnostic.channel_eq ⟨message, h.imp id .inl⟩

end Console

/-- Lines of a log as a console shows them: a higher level leaves none of them out. -/
structure IsLogOf (lines : Console → List Write) : Prop where
  sublist : ∀ {c d : Console}, c.level ≤ d.level → (lines c).Sublist (lines d)
  isLog : ∀ c, ∀ a ∈ lines c, c.IsLog a

namespace IsLogOf
variable {f g : Console → List Write}

theorem nil : IsLogOf fun _ => [] := ⟨fun _ => .slnil, by rintro _ _ ⟨⟩⟩

theorem debug (message : String) : IsLogOf (·.debug message) :=
  ⟨fun h => Console.debug_sublist h message, fun _ _ ha => ⟨message, .inl ha⟩⟩

theorem info (message : String) : IsLogOf (·.info message) :=
  ⟨fun h => Console.info_sublist h message, fun _ _ ha => ⟨message, .inr ha⟩⟩

theorem append (hf : IsLogOf f) (hg : IsLogOf g) : IsLogOf fun c => f c ++ g c := by
  refine ⟨fun h => (hf.sublist h).append (hg.sublist h), fun c a ha => ?_⟩
  rcases List.mem_append.1 ha with ha | ha
  · exact hf.isLog c a ha
  · exact hg.isLog c a ha

theorem filter_error (hf : IsLogOf f) (c : Console) : (f c).filter (·.channel = .error) = [] := by
  rw [List.filter_eq_nil_iff]
  intro a ha
  rw [(hf.isLog c a ha).channel_eq]
  decide

end IsLogOf

def Context.withConsole (ctx : Context) (c : Console) : Context := { ctx with console := c }

def Context.atLevel (ctx : Context) (name : String) : Context :=
  ctx.withConsole (.ofLevel name ctx.console.dryRun)

namespace Compile
open Job Effect

variable {σ : Type} {w : World σ} {s s' : σ} {ctx : Context} {path : String}

/-- The texts of a compile that no level filters: none if a fault ended it, the report of a failure, the
lines of a dry run, or all that is heard from the compiler. -/
inductive Unfiltered (w : World σ) (s : σ) (ctx : Context) (t : Trace σ (Except Fault Verdict)) :
    List Write → Prop
  | broken {f : Fault} (ha : t.answer = .error f) : Unfiltered w s ctx t []
  | reported {f : Failure} (ha : t.answer = .ok (.failed f)) :
      Unfiltered w s ctx t [⟨.error, f.report⟩]
  | shown {status : Int} (ha : t.answer = .ok (.exited status)) (hd : ctx.console.dryRun = true)
      (p : Plan) : Unfiltered w s ctx t ((planLines p).map (Console.labelled .output "DRY"))
  | heard {executable : PosixPath} {sp : Spawn} {c : Child} (hd : ctx.console.dryRun = false)
      (hf : executableOn ctx (w.host s) = some executable) (hs : t.spawns = [sp])
      (hl : (w.launch sp (afterProbe w s ctx executable)).1 = .started c) :
      Unfiltered w s ctx t (c.heard .empty .both).handed

/-- What a compile comes to on every console, with the log around the texts that are kept. -/
structure Outline (σ : Type) where
  answer : Except Fault Verdict
  state : σ
  acts : List Effect
  before : Console → List Write
  kept : List Write
  after : Console → List Write
  isLogOf_before : IsLogOf before
  isLogOf_after : IsLogOf after

/-- A trace on one console is as outlined. -/
structure Outline.Fits (x : Outline σ) (c : Console) (t : Trace σ (Except Fault Verdict)) : Prop where
  answer_eq : t.answer = x.answer
  state_eq : t.state = x.state
  acts_eq : t.acts = x.acts
  writes_eq : t.writes = x.before c ++ x.kept ++ x.after c

/-- There is one outline for the compiles on all consoles that agree about dry runs. -/
def Outlined (w : World σ) (s : σ) (ctx : Context) (path : String) : Prop :=
  ∃ x : Outline σ, ∀ c : Console, c.dryRun = ctx.console.dryRun →
    let t := (compile (ctx.withConsole c) path).run w s
    x.Fits c t ∧ Unfiltered w s ctx t x.kept

theorem isLogOf_locatedLines (ctx : Context) (tree : Option Texmf) :
    IsLogOf fun c => locatedLines (ctx.withConsole c) tree := by
  unfold locatedLines
  split
  · exact .debug _
  · exact .nil

theorem isLogOf_plannedLines (ctx : Context) (executable : PosixPath) (t : Toolchain)
    (tree : Option Texmf) : IsLogOf fun c => plannedLines (ctx.withConsole c) executable t tree :=
  ((IsLogOf.debug _).append (.debug _)).append (isLogOf_locatedLines ctx tree)

section Stopped
variable {stop : Stop} {es : Console → List Effect} {acts : List Effect}
  {lines : Console → List Write}

theorem outlined_of_stopped
    (h : ∀ c, attempt w s (preparation (ctx.withConsole c) path) = ⟨.error stop, s', es c⟩)
    (ha : ∀ c, (es c).filterMap act? = acts) (hw : ∀ c, (es c).filterMap write? = lines c)
    (hl : IsLogOf lines) : Outlined w s ctx path := by
  refine ⟨⟨verdictOf (.error stop), s', acts, lines, reportLines ctx (.error stop), fun _ => [], hl,
    .nil⟩, fun c _ => ?_⟩
  have hanswer : ((compile (ctx.withConsole c) path).run w s).answer = verdictOf (.error stop) := by
    rw [run_compile_stopped (h c)]
  refine ⟨⟨hanswer, ?_, ?_, ?_⟩, ?_⟩
  · rw [run_compile_stopped (h c)]
  · rw [acts_compile_stopped (h c), ha]
  · rw [writes_compile_stopped (h c), hw, List.append_nil]
    cases stop <;> rfl
  · cases stop with
    | failure f => exact .reported hanswer
    | fault f => exact .broken hanswer

theorem outlined_of_unresolved (ht : targetOn (w.host s) path = .error stop) :
    Outlined w s ctx path := by
  have h : ∀ c, attempt w s (preparation (ctx.withConsole c) path) =
      ⟨.error stop, s, [.entered .resolveTarget]⟩ := fun _ => attempt_preparation_of_unresolved ht
  exact outlined_of_stopped h (fun _ => rfl) (fun _ => rfl) .nil

variable {target executable : PosixPath} (ht : targetOn (w.host s) path = .ok target)
include ht

theorem outlined_of_notFound (hf : executableOn ctx (w.host s) = none) :
    Outlined w s ctx path := by
  have h : ∀ c, attempt w s (preparation (ctx.withConsole c) path) =
      ⟨.error (.failure (.toolNotFound ctx.settings.program)), s,
        [.entered .resolveTarget, .entered .findExecutable]⟩ :=
    fun _ => attempt_preparation_of_notFound ht hf
  exact outlined_of_stopped h (fun _ => rfl) (fun _ => rfl) .nil

theorem outlined_of_unprobed (hf : executableOn ctx (w.host s) = some executable)
    (hj : judged ctx executable (w.probe (probeCall ctx executable) s).1 = .error stop) :
    Outlined w s ctx path := by
  have h : ∀ c, attempt w s (preparation (ctx.withConsole c) path) =
      ⟨.error stop, afterProbe w s ctx executable,
        .entered .resolveTarget :: .entered .findExecutable ::
          (foundLines (ctx.withConsole c) executable).map .wrote ++
          [.entered .probe, .probed (probeCall ctx executable)]⟩ :=
    fun _ => attempt_preparation_of_unprobed ht hf hj
  exact outlined_of_stopped h (fun c => acts_unprobed _ _) (fun c => writes_unprobed _ _) (.debug _)

variable {t : Toolchain} {f : Fault} (hf : executableOn ctx (w.host s) = some executable)
  (hj : judged ctx executable (w.probe (probeCall ctx executable) s).1 = .ok t)
include hf hj

theorem outlined_of_unlocated
    (hl : treeFault? ctx (w.host (afterProbe w s ctx executable)) = some f) :
    Outlined w s ctx path := by
  have h : ∀ c, attempt w s (preparation (ctx.withConsole c) path) =
      ⟨.error (.fault f), afterProbe w s ctx executable,
        probedEffects (ctx.withConsole c) executable t ++ [.entered .locateTexmf]⟩ := by
    intro c
    have hf' : executableOn (ctx.withConsole c) (w.host s) = some executable := hf
    exact attempt_preparation_of_unlocated ht hf' hj hl
  have ha : ∀ c, (probedEffects (ctx.withConsole c) executable t ++
      [entered .locateTexmf]).filterMap act? = [.entered .resolveTarget, .entered .findExecutable,
        .entered .probe, .probed (probeCall ctx executable), .entered .locateTexmf] :=
    fun c => acts_unlocated _ _ _
  exact outlined_of_stopped h ha (fun c => writes_unlocated _ _ _)
    ((IsLogOf.debug _).append (.debug _))

theorem outlined_of_uncomposed
    (hl : treeFault? ctx (w.host (afterProbe w s ctx executable)) = none)
    (hc : composingFault? ctx (w.host (afterProbe w s ctx executable))
      (treeOn ctx (w.host (afterProbe w s ctx executable))) = some f) : Outlined w s ctx path := by
  have h : ∀ c, attempt w s (preparation (ctx.withConsole c) path) =
      ⟨.error (.fault f), afterProbe w s ctx executable,
        composedEffects (ctx.withConsole c) executable t
          (treeOn ctx (w.host (afterProbe w s ctx executable)))⟩ := by
    intro c
    have hf' : executableOn (ctx.withConsole c) (w.host s) = some executable := hf
    exact attempt_preparation_of_uncomposed ht hf' hj hl hc
  have ha : ∀ c, (composedEffects (ctx.withConsole c) executable t
      (treeOn ctx (w.host (afterProbe w s ctx executable)))).filterMap act? =
        [.entered .resolveTarget, .entered .findExecutable, .entered .probe,
          .probed (probeCall ctx executable), .entered .locateTexmf, .entered .composeOverlay] :=
    fun c => acts_composedEffects _ _ _ _
  exact outlined_of_stopped h ha (fun c => writes_composedEffects _ _ _ _)
    (isLogOf_plannedLines ctx executable t _)

end Stopped

theorem isLogOf_closingLines (ctx : Context) (target : PosixPath) (a : Except Stop Int) :
    IsLogOf fun c => closingLines (ctx.withConsole c) target a := by
  cases a with
  | ok status => exact IsLogOf.info (ctx.settings.program ++ " exited with code " ++
      toString status ++ " for " ++ target.name)
  | error stop => exact .nil

section Planned
variable {target executable : PosixPath} {t : Toolchain}
  (ht : targetOn (w.host s) path = .ok target)
  (hf : executableOn ctx (w.host s) = some executable)
  (hj : judged ctx executable (w.probe (probeCall ctx executable) s).1 = .ok t)
  (hp : planFault? ctx (w.host (afterProbe w s ctx executable)) = none)
include ht hf hj hp

/-- Whatever the console, the same is planned. -/
theorem attempt_preparation_withConsole (c : Console) :
    attempt w s (preparation (ctx.withConsole c) path) =
      ⟨.ok (target, planOn ctx (w.host (afterProbe w s ctx executable)) executable t target),
        afterProbe w s ctx executable,
        plannedEffects (ctx.withConsole c) executable t
          (treeOn ctx (w.host (afterProbe w s ctx executable)))⟩ :=
  attempt_preparation_of_planned ht hf hj hp

theorem outlined_of_dry (hd : ctx.console.dryRun = true) : Outlined w s ctx path := by
  have h := attempt_preparation_withConsole ht hf hj hp
  generalize planOn ctx (w.host (afterProbe w s ctx executable)) executable t target = p at h
  generalize treeOn ctx (w.host (afterProbe w s ctx executable)) = tree at h
  refine ⟨⟨.ok (.exited 0), afterProbe w s ctx executable,
    (plannedEffects ctx executable t tree).filterMap act?,
    fun c => plannedLines (ctx.withConsole c) executable t tree,
    (planLines p).map (Console.labelled .output "DRY"), fun _ => [],
    isLogOf_plannedLines ctx executable t tree, .nil⟩, fun c hc => ?_⟩
  have hd' : c.dryRun = true := hc.trans hd
  have hrun := run_compile_dry (h c) hd'
  refine ⟨⟨?_, ?_, ?_, ?_⟩, .shown (by rw [hrun]) hd p⟩
  · rw [hrun]
  · rw [hrun]
  · rw [acts_compile_dry (h c) hd', acts_plannedEffects, acts_plannedEffects]
    rfl
  · rw [writes_compile_dry (h c) hd', writes_plannedEffects, List.append_nil]
    exact congrArg _ (Console.flatMap_dry hd' (planLines p))

/-- The texts that a launch leads to, and which no level filters. -/
def launchedTexts (ctx : Context) (p : Plan) (l : Launch) : List Write :=
  l.heard ++ reportLines ctx (l.answer p)

omit ht hf hj hp in
theorem heard_closing_report (c : Console) (p : Plan) (l : Launch) :
    l.heard ++ closingLines (ctx.withConsole c) target (l.answer p) ++
        reportLines (ctx.withConsole c) (l.answer p) =
      launchedTexts ctx p l ++ closingLines (ctx.withConsole c) target (l.answer p) := by
  cases l with
  | refused e => simp [launchedTexts, Launch.heard, Launch.answer, closingLines]; rfl
  | broken f => simp [launchedTexts, Launch.heard, Launch.answer, closingLines, reportLines]
  | started child => simp [launchedTexts, Launch.answer, reportLines]

theorem outlined_of_real (hd : ctx.console.dryRun = false) : Outlined w s ctx path := by
  have h := attempt_preparation_withConsole ht hf hj hp
  generalize planOn ctx (w.host (afterProbe w s ctx executable)) executable t target = p at h
  generalize treeOn ctx (w.host (afterProbe w s ctx executable)) = tree at h
  let launch := w.launch (spawnOf ctx p) (afterProbe w s ctx executable)
  refine ⟨⟨verdictOf (launch.1.answer p), launch.2,
    (plannedEffects ctx executable t tree).filterMap act? ++
      [.entered .spawn, .spawned (spawnOf ctx p)],
    fun c => plannedLines (ctx.withConsole c) executable t tree ++
      c.info ("Compiling " ++ target.toText),
    launchedTexts ctx p launch.1,
    fun c => closingLines (ctx.withConsole c) target (launch.1.answer p),
    (isLogOf_plannedLines ctx executable t tree).append (.info _),
    isLogOf_closingLines ctx target _⟩, fun c hc => ?_⟩
  have hd' : c.dryRun = false := hc.trans hd
  have hrun := run_compile_real (h c) hd'
  have hanswer : ((compile (ctx.withConsole c) path).run w s).answer =
      verdictOf (launch.1.answer p) := by rw [hrun]; rfl
  refine ⟨⟨hanswer, ?_, ?_, ?_⟩, ?_⟩
  · rw [hrun]
    rfl
  · rw [acts_compile_real (h c) hd', acts_plannedEffects, acts_plannedEffects]
    rfl
  · rw [writes_compile_real (h c) hd', writes_plannedEffects, List.append_assoc _ _ (closingLines _ _ _)]
    exact congrArg _ (heard_closing_report c p launch.1)
  · -- a launch is refused, breaks, or starts the child that is heard
    cases hl : launch.1 with
    | refused e =>
      rw [hl] at hanswer
      exact .reported hanswer
    | broken f =>
      rw [hl] at hanswer
      exact .broken hanswer
    | started child =>
      have hkept : launchedTexts ctx p (.started child) = (child.heard .empty .both).handed := by
        simp [launchedTexts, Launch.heard, Launch.answer, reportLines]
      rw [hkept]
      exact .heard hd hf (spawns_compile_real (h c) hd') hl

end Planned

theorem outlined_compile (w : World σ) (s : σ) (ctx : Context) (path : String) :
    Outlined w s ctx path := by
  cases ht : targetOn (w.host s) path with
  | error stop => exact outlined_of_unresolved ht
  | ok target =>
    cases hf : executableOn ctx (w.host s) with
    | none => exact outlined_of_notFound ht hf
    | some executable =>
      cases hj : judged ctx executable (w.probe (probeCall ctx executable) s).1 with
      | error stop => exact outlined_of_unprobed ht hf hj
      | ok t =>
        cases hl : treeFault? ctx (w.host (afterProbe w s ctx executable)) with
        | some f => exact outlined_of_unlocated ht hf hj hl
        | none =>
          cases hc : composingFault? ctx (w.host (afterProbe w s ctx executable))
              (treeOn ctx (w.host (afterProbe w s ctx executable))) with
          | some f => exact outlined_of_uncomposed ht hf hj hl hc
          | none =>
            have hp := Option.or_eq_none_iff.2 ⟨hl, hc⟩
            cases hd : ctx.console.dryRun with
            | true => exact outlined_of_dry ht hf hj hp hd
            | false => exact outlined_of_real ht hf hj hp hd

/-- Two runs that differ in their logs: the first one leaves lines out of the log of the second, which
lies around the texts that no level filters. -/
structure LogsLess (w : World σ) (s : σ) (ctx : Context) (c : Console)
    (l h : Trace σ (Except Fault Verdict)) : Prop where
  answer_eq : l.answer = h.answer
  state_eq : l.state = h.state
  acts_eq : l.acts = h.acts
  probes_eq : l.probes = h.probes
  spawns_eq : l.spawns = h.spawns
  errors_eq : l.writes.filter (·.channel = .error) = h.writes.filter (·.channel = .error)
  output_sublist :
    (l.writes.filter (·.channel = .output)).Sublist (h.writes.filter (·.channel = .output))
  exists_kept : ∃ kept before after before' after', Unfiltered w s ctx h kept ∧
    l.writes = before ++ kept ++ after ∧ h.writes = before' ++ kept ++ after' ∧
    before.Sublist before' ∧ after.Sublist after' ∧ ∀ a ∈ before' ++ after', c.IsLog a

namespace Outline.Fits
variable {x : Outline σ} {c d : Console} {l h : Trace σ (Except Fault Verdict)}

theorem errors_eq (hl : x.Fits c l) :
    l.writes.filter (·.channel = .error) = x.kept.filter (·.channel = .error) := by
  simp only [hl.writes_eq, List.filter_append, x.isLogOf_before.filter_error,
    x.isLogOf_after.filter_error, List.nil_append, List.append_nil]

theorem logsLess (hl : x.Fits c l) (hh : x.Fits d h) (hle : c.level ≤ d.level)
    (hkept : Unfiltered w s ctx h x.kept) : LogsLess w s ctx d l h := by
  have hbefore := x.isLogOf_before.sublist hle
  have hafter := x.isLogOf_after.sublist hle
  have hacts : l.acts = h.acts := hl.acts_eq.trans hh.acts_eq.symm
  refine ⟨hl.answer_eq.trans hh.answer_eq.symm, hl.state_eq.trans hh.state_eq.symm, hacts, ?_, ?_,
    hl.errors_eq.trans hh.errors_eq.symm, ?_, ?_⟩
  · rw [Trace.probes_eq, Trace.probes_eq, hacts]
  · rw [Trace.spawns_eq, Trace.spawns_eq, hacts]
  · rw [hl.writes_eq, hh.writes_eq]
    exact ((hbefore.append_right _).append hafter).filter _
  · refine ⟨x.kept, _, _, _, _, hkept, hl.writes_eq, hh.writes_eq, hbefore, hafter, fun a ha => ?_⟩
    rcases List.mem_append.1 ha with ha | ha
    · exact x.isLogOf_before.isLog d a ha
    · exact x.isLogOf_after.isLog d a ha

end Outline.Fits

/-- The level of the console does not influence a compile: at a lower level it ends alike, does the same
and writes the same errors, and its output is that of the higher level without some lines of the log.
All that the compiler writes, and every line of a dry run, is kept in its order. -/
theorem level_changes_log_only (w : World σ) (s : σ) (ctx : Context) (path : String)
    {low high : String} (hle : Console.levelOf low ≤ Console.levelOf high) :
    LogsLess w s ctx (ctx.atLevel high).console ((compile (ctx.atLevel low) path).run w s)
      ((compile (ctx.atLevel high) path).run w s) := by
  obtain ⟨x, hx⟩ := outlined_compile w s ctx path
  obtain ⟨hl, -⟩ := hx (.ofLevel low ctx.console.dryRun) rfl
  obtain ⟨hh, hkept⟩ := hx (.ofLevel high ctx.console.dryRun) rfl
  exact hl.logsLess hh hle hkept

/-- A level that is not known and the highest one: the document is compiled at both. -/
theorem level_changes_log_only_uneven :
    Console.levelOf "none" ≤ Console.levelOf "debug" ∧
    let quiet := (compile ((searching "/bin").atLevel "none") "doc/a.tex").run (uneven 1) 0
    let loud := (compile ((searching "/bin").atLevel "debug") "doc/a.tex").run (uneven 1) 0
    loud.answer = .ok (.exited 0) ∧
      LogsLess (uneven 1) 0 (searching "/bin") (.ofLevel "debug" false) quiet loud := by
  have hle : Console.levelOf "none" ≤ Console.levelOf "debug" := by decide
  have hless := level_changes_log_only (uneven 1) 0 (searching "/bin") "doc/a.tex" hle
  have hquiet : ((compile ((searching "/bin").atLevel "none") "doc/a.tex").run (uneven 1) 0).answer =
      .ok (.exited 0) := answer_uneven_succ 0
  exact ⟨hle, hless.answer_eq.symm.trans hquiet, hless⟩

end Compile
end Typeset
