import Typeset.Compile.Document
import Typeset.Proofs.Runner.Delivery

/-!
# The course of a compile

What a compile does is told stage by stage, as the trace that it leaves. Up to the plan there are
four ways to go: the path is not resolved, the compiler is not found, the probe stops it, or there is
a plan. After that the plan is shown, or the compiler is started and whatever becomes of it decides.
The properties of compiles are read off these cases, and no stage is opened again.
-/

namespace Typeset

namespace Trace
variable {σ ε α β γ : Type}

/-- A good answer is gone on with, a stop ends the trace. -/
def andThen (t : Trace σ (Except ε α)) (next : α → σ → Trace σ (Except ε β)) :
    Trace σ (Except ε β) :=
  match t.answer with
  | .ok a => { next a t.state with effects := t.effects ++ (next a t.state).effects }
  | .error e => ⟨.error e, t.state, t.effects⟩

@[simp] theorem andThen_ok (a : α) (s : σ) (es : List Effect)
    (next : α → σ → Trace σ (Except ε β)) :
    andThen ⟨.ok a, s, es⟩ next = { next a s with effects := es ++ (next a s).effects } := rfl

@[simp] theorem andThen_error (e : ε) (s : σ) (es : List Effect)
    (next : α → σ → Trace σ (Except ε β)) :
    andThen ⟨.error e, s, es⟩ next = ⟨.error e, s, es⟩ := rfl

theorem andThen_assoc (t : Trace σ (Except ε α)) (f : α → σ → Trace σ (Except ε β))
    (g : β → σ → Trace σ (Except ε γ)) :
    (t.andThen f).andThen g = t.andThen fun a s => (f a s).andThen g := by
  obtain ⟨answer, s, es⟩ := t
  cases answer with
  | error e => rfl
  | ok a =>
    simp only [andThen_ok]
    obtain ⟨answer, s', es'⟩ := f a s
    cases answer with
    | error e => rfl
    | ok b => simp only [andThen_ok, List.append_assoc]

end Trace

namespace Job
variable {σ ε α β : Type} (w : World σ) (s : σ)

/-- The trace of a job that may stop early. -/
def attempt (x : ExceptT ε Job α) : Trace σ (Except ε α) := x.run.run w s

@[simp] theorem attempt_pure (a : α) :
    attempt w s (pure a : ExceptT ε Job α) = ⟨.ok a, s, []⟩ := rfl

@[simp] theorem attempt_throw (e : ε) :
    attempt w s (throw e : ExceptT ε Job α) = ⟨.error e, s, []⟩ := rfl

@[simp] theorem attempt_bind (x : ExceptT ε Job α) (f : α → ExceptT ε Job β) :
    attempt w s (x >>= f) = (attempt w s x).andThen fun a s => attempt w s (f a) := by
  show (Job.bind x.run (ExceptT.bindCont f)).run w s = _
  rw [run_bind, attempt]
  obtain ⟨answer, state, effects⟩ := x.run.run w s
  cases answer with
  | ok a => rfl
  | error e => exact congrArg (Trace.mk _ _) effects.append_nil

end Job

namespace Trace
variable {σ α : Type}

def writes (t : Trace σ α) : List Write := t.effects.filterMap Effect.write?

def probes (t : Trace σ α) : List Probe.Call := t.effects.filterMap Effect.probe?

def spawns (t : Trace σ α) : List Spawn := t.effects.filterMap Effect.spawn?

end Trace

/-- What jobs start one after the other, one of them starts by itself. -/
theorem Job.exists_of_mem_spawns_runAll {σ α : Type} {w : World σ} {s : σ} {js : List (Job α)}
    {sp : Spawn} (hsp : sp ∈ (runAll w s js).spawns) :
    ∃ j ∈ js, ∃ s', sp ∈ (j.run w s').spawns := by
  induction js generalizing s with
  | nil => cases hsp
  | cons j js ih =>
    have happ : (runAll w s (j :: js)).spawns =
        (j.run w s).spawns ++ (runAll w (j.run w s).state js).spawns :=
      List.filterMap_append
    rw [happ, List.mem_append] at hsp
    rcases hsp with hsp | hsp
    · exact ⟨j, .head _, s, hsp⟩
    · obtain ⟨k, hk, s', hs⟩ := ih hsp
      exact ⟨k, .tail _ hk, s', hs⟩

namespace Effect

def act? : Effect → Option Effect
  | .wrote _ => none
  | e => some e

theorem filterMap_write?_wrote (ws : List Write) : (ws.map wrote).filterMap write? = ws := by
  simp [Function.comp_def, write?]

section Acts
variable {β : Type} {f : Effect → Option β} (hf : ∀ a, f (.wrote a) = none)
include hf

/-- What passes writes over finds nothing in them. -/
theorem filterMap_wrote (ws : List Write) : (ws.map wrote).filterMap f = [] := by
  simp [hf]

/-- What passes writes over can be read off the acts. -/
theorem filterMap_act? (es : List Effect) : (es.filterMap act?).filterMap f = es.filterMap f := by
  have hstep : ∀ e, (act? e).bind f = f e := by
    intro e
    cases e with
    | wrote a => exact (hf a).symm
    | entered s => rfl
    | probed c => rfl
    | spawned s => rfl
  simp only [List.filterMap_filterMap, hstep]

end Acts

end Effect

/-- How a launch answers the run of a plan. -/
def Launch.answer (p : Plan) : Launch → Except Stop Int
  | .refused e => .error (.failure (.launch p.executable.toText e.reason))
  | .broken f => .error (.fault f)
  | .started c => .ok c.status

def Launch.heard : Launch → List Write
  | .started c => (c.heard .empty .both).handed
  | _ => []

/-- Where no process is left, nothing holds the streams of a child open. -/
theorem Child.isOpen_empty (c : Child) : c.isOpen .empty = false := by
  cases he : c.exited <;>
    simp [isOpen, he, ProcessTable.hasGroup, ProcessTable.isAlive, ProcessTable.living?,
      ProcessTable.row?, ProcessTable.empty]

/-- A child whose listeners never fail is heard to its end, and then its status is the answer. -/
theorem Runner.run_both (r : Runner) (p : Plan) (c : Child) :
    (r.run p (.started c) .empty .both none).conclusion = .exited c.status ∧
      (r.run p (.started c) .empty .both none).reading = c.heard .empty .both := by
  have hopen := c.isOpen_empty
  have hstatus : c.statusIn .empty = c.status := by
    simp [Child.statusIn, ProcessTable.row?, ProcessTable.empty]
  rw [Child.heard_of_not_isOpen hopen, ← hstatus]
  exact supervise_of_not_isOpen hopen rfl c.not_failed_readOut_both

namespace Compile
open Job

variable {σ : Type} (w : World σ) (s : σ) (ctx : Context)

@[simp] theorem attempt_enter (stage : Stage) :
    attempt w s (enter stage) = ⟨.ok (), s, [.entered stage]⟩ := rfl

@[simp] theorem attempt_host : attempt w s host = ⟨.ok (w.host s), s, []⟩ := rfl

@[simp] theorem attempt_pause : attempt w s pause = ⟨.ok (), s, []⟩ := rfl

@[simp] theorem attempt_probing (c : Probe.Call) :
    attempt w s (ExceptT.lift (.probe c .done) : ExceptT Stop Job Probe.Outcome) =
      ⟨.ok (w.probe c s).1, (w.probe c s).2, [.probed c]⟩ := rfl

@[simp] theorem attempt_spawning (p : Spawn) :
    attempt w s (ExceptT.lift (.spawn p .done) : ExceptT Stop Job Launch) =
      ⟨.ok (w.launch p s).1, (w.launch p s).2, [.spawned p]⟩ := rfl

@[simp] theorem attempt_say (ws : List Write) :
    attempt w s (say ws) = ⟨.ok (), s, ws.map .wrote⟩ := by
  induction ws with
  | nil => rfl
  | cons a ws ih =>
    have h : attempt w s (say (a :: ws)) =
        { attempt w s (say ws) with effects := .wrote a :: (attempt w s (say ws)).effects } := rfl
    rw [h, ih]
    rfl

@[simp] theorem attempt_resolveTarget (path : String) :
    attempt w s (resolveTarget path) =
      ⟨targetOn (w.host s) path, s, [.entered .resolveTarget]⟩ := rfl

theorem targetOn_of_resolve {h : Host} {path : String} {target : PosixPath}
    (hr : h.resolve path = .ok target) : targetOn h path = .ok target := by
  rw [targetOn, hr]

def executableOn (ctx : Context) (h : Host) : Option PosixPath :=
  h.findProgram? ctx.settings.program (some ctx.environment)

theorem executableOn_of_slash {ctx : Context} {h : Host} (hs : '/' ∈ ctx.settings.program.toList)
    (hp : h.isProgram ctx.settings.program = true) :
    executableOn ctx h = some (.ofText ctx.settings.program) := by
  simp [executableOn, Host.findProgram?, hs, hp]

def foundLines (ctx : Context) (executable : PosixPath) : List Write :=
  ctx.console.debug ("Using " ++ executable.toText)

theorem attempt_findExecutable_of_none (h : executableOn ctx (w.host s) = none) :
    attempt w s (findExecutable ctx) =
      ⟨.error (.failure (.toolNotFound ctx.settings.program)), s, [.entered .findExecutable]⟩ := by
  rw [executableOn] at h
  simp [findExecutable, h]

theorem attempt_findExecutable_of_some {p : PosixPath} (h : executableOn ctx (w.host s) = some p) :
    attempt w s (findExecutable ctx) =
      ⟨.ok p, s, .entered .findExecutable :: (foundLines ctx p).map .wrote⟩ := by
  rw [executableOn] at h
  simp [findExecutable, foundLines, h]

def probeCall (ctx : Context) (executable : PosixPath) : Probe.Call :=
  Probe.call executable ctx.settings.probeFlag ctx.settings.probeTimeout

/-- What the answer to the probe comes to. -/
def judged (ctx : Context) (executable : PosixPath) (o : Probe.Outcome) : Except Stop Toolchain :=
  Probe.judge executable.toText ctx.settings.probeTimeout o

def probedLines (ctx : Context) (t : Toolchain) : List Write :=
  ctx.console.debug ("Detected " ++ t.distribution.toText ++ " toolchain")

section Probe
variable {ctx} {w} {s}
variable {executable : PosixPath} {stop : Stop} {t : Toolchain}

theorem attempt_probe_of_error
    (h : judged ctx executable (w.probe (probeCall ctx executable) s).1 = .error stop) :
    attempt w s (probe ctx executable) =
      ⟨.error stop, (w.probe (probeCall ctx executable) s).2,
        [.entered .probe, .probed (probeCall ctx executable)]⟩ := by
  rw [judged, probeCall] at h
  simp [probe, probeCall, h]

theorem attempt_probe_of_ok
    (h : judged ctx executable (w.probe (probeCall ctx executable) s).1 = .ok t) :
    attempt w s (probe ctx executable) =
      ⟨.ok t, (w.probe (probeCall ctx executable) s).2,
        .entered .probe :: .probed (probeCall ctx executable) :: (probedLines ctx t).map .wrote⟩ := by
  rw [judged, probeCall] at h
  simp [probe, probeCall, probedLines, h]

end Probe

def treeOn (ctx : Context) (h : Host) : Option Texmf :=
  Texmf.locate h ctx.platform (Texmf.shareDirectory? ctx.settings.shareDirectory ctx.environment)

def locatedLines (ctx : Context) (tree : Option Texmf) : List Write :=
  if tree.isNone then
    ctx.console.debug "R texmf directory not found; keeping the ambient TeX search paths"
  else []

def treeFault? (ctx : Context) (h : Host) : Option Fault :=
  Texmf.fault? h (Texmf.shareDirectory? ctx.settings.shareDirectory ctx.environment)

theorem attempt_locateTexmf_of_fault {f : Fault} (h : treeFault? ctx (w.host s) = some f) :
    attempt w s (locateTexmf ctx) = ⟨.error (.fault f), s, [.entered .locateTexmf]⟩ := by
  rw [treeFault?] at h
  simp [locateTexmf, h, check]

theorem attempt_locateTexmf (h : treeFault? ctx (w.host s) = none) :
    attempt w s (locateTexmf ctx) =
      ⟨.ok (treeOn ctx (w.host s)), s,
        .entered .locateTexmf :: (locatedLines ctx (treeOn ctx (w.host s))).map .wrote⟩ := by
  rw [treeFault?] at h
  simp only [locateTexmf, attempt_bind, attempt_enter, attempt_host, Trace.andThen_ok, h, check,
    attempt_pure]
  rw [← treeOn]
  cases treeOn ctx (w.host s) with
  | none => simp [locatedLines]
  | some t => simp [locatedLines]

def overlayOn (ctx : Context) (h : Host) (tree : Option Texmf) : Variables :=
  compilerOverlay h tree ctx.environment ctx.platform (ctx.settings.scriptsDirectory.getD h.scripts)

def composingFault? (ctx : Context) (h : Host) (tree : Option Texmf) : Option Fault :=
  overlayFault? h tree ctx.platform (ctx.settings.scriptsDirectory.getD h.scripts)

theorem attempt_composeOverlay_of_fault {tree : Option Texmf} {f : Fault}
    (h : composingFault? ctx (w.host s) tree = some f) :
    attempt w s (composeOverlay ctx tree) = ⟨.error (.fault f), s, [.entered .composeOverlay]⟩ := by
  rw [composingFault?] at h
  simp [composeOverlay, h, check]

theorem attempt_composeOverlay {tree : Option Texmf}
    (h : composingFault? ctx (w.host s) tree = none) :
    attempt w s (composeOverlay ctx tree) =
      ⟨.ok (overlayOn ctx (w.host s) tree), s, [.entered .composeOverlay]⟩ := by
  rw [composingFault?] at h
  simp [composeOverlay, h, check, overlayOn]

@[simp] theorem attempt_buildArguments (t : Toolchain) (tree : Option Texmf) :
    attempt w s (buildArguments ctx t tree) =
      ⟨.ok (compilerArguments t.distribution ctx.platform tree), s, [.entered .buildArguments]⟩ := rfl

def planOn (ctx : Context) (h : Host) (executable : PosixPath) (t : Toolchain)
    (target : PosixPath) : Plan :=
  .forTarget executable (overlayOn ctx h (treeOn ctx h))
    (compilerArguments t.distribution ctx.platform (treeOn ctx h)) target

/-- Why there can be no plan on a host. -/
def planFault? (ctx : Context) (h : Host) : Option Fault :=
  (treeFault? ctx h).or (composingFault? ctx h (treeOn ctx h))

theorem planFault?_of_hasWorkingDirectory {h : Host} (hcwd : h.hasWorkingDirectory = true)
    (hcode : h.encoding = .utf8) (ctx : Context) : planFault? ctx h = none := by
  rw [planFault?, treeFault?, composingFault?, Texmf.fault?_of_hasWorkingDirectory hcwd,
    overlayFault?_of_hasWorkingDirectory hcwd hcode, Option.none_or]

def preparation (ctx : Context) (path : String) : ExceptT Stop Job (PosixPath × Plan) := do
  let target ← resolveTarget path
  let p ← plan ctx target
  pure (target, p)

def afterProbe (ctx : Context) (executable : PosixPath) : σ :=
  (w.probe (probeCall ctx executable) s).2

def plannedLines (ctx : Context) (executable : PosixPath) (t : Toolchain) (tree : Option Texmf) :
    List Write :=
  foundLines ctx executable ++ probedLines ctx t ++ locatedLines ctx tree

/-- The stages up to the probe. -/
def probedEffects (ctx : Context) (executable : PosixPath) (t : Toolchain) : List Effect :=
  .entered .resolveTarget :: .entered .findExecutable :: (foundLines ctx executable).map .wrote ++
    .entered .probe :: .probed (probeCall ctx executable) :: (probedLines ctx t).map .wrote

/-- The stages up to the variables. -/
def composedEffects (ctx : Context) (executable : PosixPath) (t : Toolchain) (tree : Option Texmf) :
    List Effect :=
  probedEffects ctx executable t ++
    .entered .locateTexmf :: (locatedLines ctx tree).map .wrote ++ [.entered .composeOverlay]

def plannedEffects (ctx : Context) (executable : PosixPath) (t : Toolchain) (tree : Option Texmf) :
    List Effect :=
  composedEffects ctx executable t tree ++ [.entered .buildArguments]

/-- The ways in which the stages before the launch can go. -/
inductive Prepared (path : String) : Trace σ (Except Stop (PosixPath × Plan)) → Prop
  | unresolved {stop : Stop} (ht : targetOn (w.host s) path = .error stop) :
      Prepared path ⟨.error stop, s, [.entered .resolveTarget]⟩
  | notFound {target : PosixPath} (ht : targetOn (w.host s) path = .ok target)
      (hf : executableOn ctx (w.host s) = none) :
      Prepared path ⟨.error (.failure (.toolNotFound ctx.settings.program)), s,
        [.entered .resolveTarget, .entered .findExecutable]⟩
  | unprobed {target executable : PosixPath} {stop : Stop}
      (ht : targetOn (w.host s) path = .ok target)
      (hf : executableOn ctx (w.host s) = some executable)
      (hj : judged ctx executable (w.probe (probeCall ctx executable) s).1 = .error stop) :
      Prepared path ⟨.error stop, afterProbe w s ctx executable,
        .entered .resolveTarget :: .entered .findExecutable ::
          (foundLines ctx executable).map .wrote ++
          [.entered .probe, .probed (probeCall ctx executable)]⟩
  | unlocated {target executable : PosixPath} {t : Toolchain} {f : Fault}
      (ht : targetOn (w.host s) path = .ok target)
      (hf : executableOn ctx (w.host s) = some executable)
      (hj : judged ctx executable (w.probe (probeCall ctx executable) s).1 = .ok t)
      (hl : treeFault? ctx (w.host (afterProbe w s ctx executable)) = some f) :
      Prepared path ⟨.error (.fault f), afterProbe w s ctx executable,
        probedEffects ctx executable t ++ [.entered .locateTexmf]⟩
  | uncomposed {target executable : PosixPath} {t : Toolchain} {f : Fault}
      (ht : targetOn (w.host s) path = .ok target)
      (hf : executableOn ctx (w.host s) = some executable)
      (hj : judged ctx executable (w.probe (probeCall ctx executable) s).1 = .ok t)
      (hl : treeFault? ctx (w.host (afterProbe w s ctx executable)) = none)
      (hc : composingFault? ctx (w.host (afterProbe w s ctx executable))
        (treeOn ctx (w.host (afterProbe w s ctx executable))) = some f) :
      Prepared path ⟨.error (.fault f), afterProbe w s ctx executable,
        composedEffects ctx executable t (treeOn ctx (w.host (afterProbe w s ctx executable)))⟩
  | planned {target executable : PosixPath} {t : Toolchain}
      (ht : targetOn (w.host s) path = .ok target)
      (hf : executableOn ctx (w.host s) = some executable)
      (hj : judged ctx executable (w.probe (probeCall ctx executable) s).1 = .ok t)
      (hp : planFault? ctx (w.host (afterProbe w s ctx executable)) = none) :
      Prepared path
        ⟨.ok (target, planOn ctx (w.host (afterProbe w s ctx executable)) executable t target),
          afterProbe w s ctx executable,
          plannedEffects ctx executable t (treeOn ctx (w.host (afterProbe w s ctx executable)))⟩

section Ways
variable {w s ctx} {path : String} {target executable : PosixPath} {stop : Stop} {t : Toolchain}

theorem attempt_preparation_of_unresolved (ht : targetOn (w.host s) path = .error stop) :
    attempt w s (preparation ctx path) = ⟨.error stop, s, [.entered .resolveTarget]⟩ := by
  simp [preparation, ht]

variable (ht : targetOn (w.host s) path = .ok target)
include ht

theorem attempt_preparation_of_notFound (hf : executableOn ctx (w.host s) = none) :
    attempt w s (preparation ctx path) =
      ⟨.error (.failure (.toolNotFound ctx.settings.program)), s,
        [.entered .resolveTarget, .entered .findExecutable]⟩ := by
  simp [preparation, plan, ht, attempt_findExecutable_of_none w s ctx hf]

variable (hf : executableOn ctx (w.host s) = some executable)
include hf

theorem attempt_preparation_of_unprobed
    (hj : judged ctx executable (w.probe (probeCall ctx executable) s).1 = .error stop) :
    attempt w s (preparation ctx path) =
      ⟨.error stop, afterProbe w s ctx executable,
        .entered .resolveTarget :: .entered .findExecutable ::
          (foundLines ctx executable).map .wrote ++
          [.entered .probe, .probed (probeCall ctx executable)]⟩ := by
  simp [preparation, plan, ht, attempt_findExecutable_of_some w s ctx hf, attempt_probe_of_error hj,
    afterProbe]

variable (hj : judged ctx executable (w.probe (probeCall ctx executable) s).1 = .ok t)
include hj

theorem attempt_preparation_of_unlocated {f : Fault}
    (hl : treeFault? ctx (w.host (afterProbe w s ctx executable)) = some f) :
    attempt w s (preparation ctx path) =
      ⟨.error (.fault f), afterProbe w s ctx executable,
        probedEffects ctx executable t ++ [.entered .locateTexmf]⟩ := by
  rw [afterProbe] at hl
  simp [preparation, plan, ht, attempt_findExecutable_of_some w s ctx hf, attempt_probe_of_ok hj,
    attempt_locateTexmf_of_fault w _ ctx hl, afterProbe, probedEffects]

theorem attempt_preparation_of_uncomposed {f : Fault}
    (hl : treeFault? ctx (w.host (afterProbe w s ctx executable)) = none)
    (hc : composingFault? ctx (w.host (afterProbe w s ctx executable))
      (treeOn ctx (w.host (afterProbe w s ctx executable))) = some f) :
    attempt w s (preparation ctx path) =
      ⟨.error (.fault f), afterProbe w s ctx executable,
        composedEffects ctx executable t (treeOn ctx (w.host (afterProbe w s ctx executable)))⟩ := by
  rw [afterProbe] at hl hc
  simp [preparation, plan, ht, attempt_findExecutable_of_some w s ctx hf, attempt_probe_of_ok hj,
    attempt_locateTexmf w _ ctx hl, attempt_composeOverlay_of_fault w _ ctx hc, afterProbe,
    composedEffects, probedEffects]

theorem attempt_preparation_of_planned
    (hp : planFault? ctx (w.host (afterProbe w s ctx executable)) = none) :
    attempt w s (preparation ctx path) =
      ⟨.ok (target, planOn ctx (w.host (afterProbe w s ctx executable)) executable t target),
        afterProbe w s ctx executable,
        plannedEffects ctx executable t (treeOn ctx (w.host (afterProbe w s ctx executable)))⟩ := by
  obtain ⟨hl, hc⟩ := Option.or_eq_none_iff.1 hp
  rw [afterProbe] at hl hc
  simp [preparation, plan, ht, attempt_findExecutable_of_some w s ctx hf, attempt_probe_of_ok hj,
    attempt_locateTexmf w _ ctx hl, attempt_composeOverlay w _ ctx hc, afterProbe, planOn,
    plannedEffects, composedEffects, probedEffects]

end Ways

theorem prepared_preparation (path : String) :
    Prepared w s ctx path (attempt w s (preparation ctx path)) := by
  cases ht : targetOn (w.host s) path with
  | error stop =>
    rw [attempt_preparation_of_unresolved ht]
    exact .unresolved ht
  | ok target =>
    cases hf : executableOn ctx (w.host s) with
    | none =>
      rw [attempt_preparation_of_notFound ht hf]
      exact .notFound ht hf
    | some executable =>
      cases hj : judged ctx executable (w.probe (probeCall ctx executable) s).1 with
      | error stop =>
        rw [attempt_preparation_of_unprobed ht hf hj]
        exact .unprobed ht hf hj
      | ok t =>
        cases hl : treeFault? ctx (w.host (afterProbe w s ctx executable)) with
        | some f =>
          rw [attempt_preparation_of_unlocated ht hf hj hl]
          exact .unlocated ht hf hj hl
        | none =>
          cases hc : composingFault? ctx (w.host (afterProbe w s ctx executable))
              (treeOn ctx (w.host (afterProbe w s ctx executable))) with
          | some f =>
            rw [attempt_preparation_of_uncomposed ht hf hj hl hc]
            exact .uncomposed ht hf hj hl hc
          | none =>
            have hp := Option.or_eq_none_iff.2 ⟨hl, hc⟩
            rw [attempt_preparation_of_planned ht hf hj hp]
            exact .planned ht hf hj hp

section Prepared
open Effect

theorem writes_unprobed (lines : List Write) (call : Probe.Call) :
    (entered .resolveTarget :: entered .findExecutable :: lines.map wrote ++
      [entered .probe, probed call]).filterMap write? = lines := by
  simp only [List.filterMap_cons, List.filterMap_append, filterMap_write?_wrote, write?,
    List.filterMap_nil, List.append_nil]

theorem acts_unprobed (lines : List Write) (call : Probe.Call) :
    (entered .resolveTarget :: entered .findExecutable :: lines.map wrote ++
      [entered .probe, probed call]).filterMap act? =
      [entered .resolveTarget, entered .findExecutable, entered .probe, probed call] := by
  simp only [List.filterMap_cons, List.filterMap_append, filterMap_wrote (f := act?) fun _ => rfl,
    act?, List.filterMap_nil, List.nil_append, List.cons_append]

variable (executable : PosixPath) (t : Toolchain) (tree : Option Texmf)

theorem writes_probedEffects :
    (probedEffects ctx executable t).filterMap write? =
      foundLines ctx executable ++ probedLines ctx t := by
  simp only [probedEffects, List.filterMap_cons, List.filterMap_append, filterMap_write?_wrote, write?]

theorem writes_unlocated :
    (probedEffects ctx executable t ++ [entered .locateTexmf]).filterMap write? =
      foundLines ctx executable ++ probedLines ctx t := by
  rw [List.filterMap_append, writes_probedEffects]
  exact List.append_nil _

theorem writes_composedEffects :
    (composedEffects ctx executable t tree).filterMap write? =
      plannedLines ctx executable t tree := by
  simp only [composedEffects, plannedLines, List.filterMap_append, writes_probedEffects,
    List.filterMap_cons, filterMap_write?_wrote, write?, List.filterMap_nil, List.append_nil]

theorem writes_plannedEffects :
    (plannedEffects ctx executable t tree).filterMap write? =
      plannedLines ctx executable t tree := by
  rw [plannedEffects, List.filterMap_append, writes_composedEffects]
  exact List.append_nil _

theorem acts_probedEffects :
    (probedEffects ctx executable t).filterMap act? =
      [entered .resolveTarget, entered .findExecutable, entered .probe,
        probed (probeCall ctx executable)] := by
  simp only [probedEffects, List.filterMap_cons, List.filterMap_append,
    filterMap_wrote (f := act?) fun _ => rfl, act?, List.nil_append, List.cons_append]

theorem acts_unlocated :
    (probedEffects ctx executable t ++ [entered .locateTexmf]).filterMap act? =
      [entered .resolveTarget, entered .findExecutable, entered .probe,
        probed (probeCall ctx executable), entered .locateTexmf] := by
  rw [List.filterMap_append, acts_probedEffects]
  rfl

theorem acts_composedEffects :
    (composedEffects ctx executable t tree).filterMap act? =
      [entered .resolveTarget, entered .findExecutable, entered .probe,
        probed (probeCall ctx executable), entered .locateTexmf, entered .composeOverlay] := by
  simp only [composedEffects, List.filterMap_append, acts_probedEffects, List.filterMap_cons,
    filterMap_wrote (f := act?) fun _ => rfl, act?, List.filterMap_nil, List.nil_append,
    List.cons_append]

/-- Apart from what they write, the stages before the launch always do the same. -/
theorem acts_plannedEffects :
    (plannedEffects ctx executable t tree).filterMap act? =
      [entered .resolveTarget, entered .findExecutable, entered .probe,
        probed (probeCall ctx executable), entered .locateTexmf, entered .composeOverlay,
        entered .buildArguments] := by
  rw [plannedEffects, List.filterMap_append, acts_composedEffects]
  rfl

theorem probes_plannedEffects :
    (plannedEffects ctx executable t tree).filterMap probe? = [probeCall ctx executable] := by
  rw [← filterMap_act? fun _ => rfl, acts_plannedEffects]
  rfl

theorem spawns_plannedEffects : (plannedEffects ctx executable t tree).filterMap spawn? = [] := by
  rw [← filterMap_act? fun _ => rfl, acts_plannedEffects]
  rfl

variable {w s ctx} {path : String}

theorem Prepared.spawns_eq {t : Trace σ (Except Stop (PosixPath × Plan))}
    (h : Prepared w s ctx path t) : t.spawns = [] := by
  cases h with
  | unresolved ht => rfl
  | notFound ht hf => rfl
  | unprobed ht hf hj =>
    rw [Trace.spawns, ← filterMap_act? fun _ => rfl, acts_unprobed]
    rfl
  | unlocated ht hf hj hl =>
    rw [Trace.spawns, ← filterMap_act? fun _ => rfl, acts_unlocated]
    rfl
  | uncomposed ht hf hj hl hc =>
    rw [Trace.spawns, ← filterMap_act? fun _ => rfl, acts_composedEffects]
    rfl
  | planned ht hf hj hp => exact spawns_plannedEffects ctx _ _ _

theorem Prepared.exists_executable {q : PosixPath × Plan} {s' : σ} {es : List Effect}
    (hp : Prepared w s ctx path ⟨.ok q, s', es⟩) :
    ∃ executable, executableOn ctx (w.host s) = some executable ∧
      s' = afterProbe w s ctx executable := by
  cases hp with
  | planned _ hf _ _ => exact ⟨_, hf, rfl⟩

end Prepared

def carryOut (ctx : Context) (target : PosixPath) (p : Plan) : ExceptT Stop Job Int :=
  if ctx.console.dryRun then do
    describe ctx p
    pure 0
  else do
    say (ctx.console.info ("Compiling " ++ target.toText))
    let status ← execute ctx p
    say (ctx.console.info (ctx.settings.program ++ " exited with code " ++ toString status ++
      " for " ++ target.name))
    pure status

theorem attempt_steps (path : String) :
    attempt w s (steps ctx path) =
      (attempt w s (preparation ctx path)).andThen fun q s => attempt w s (carryOut ctx q.1 q.2) := by
  simp only [steps, preparation, compileTarget, attempt_bind, Trace.andThen_assoc, attempt_pure,
    Trace.andThen_ok, List.nil_append]
  rfl

/-- How the compiler is started by a plan. -/
def spawnOf (ctx : Context) (p : Plan) : Spawn :=
  ⟨p.command, p.workingDirectory, ctx.environment.overlay p.environment⟩

theorem attempt_execute (p : Plan) :
    attempt w s (execute ctx p) =
      ⟨(w.launch (spawnOf ctx p) s).1.answer p, (w.launch (spawnOf ctx p) s).2,
        .entered .spawn :: .spawned (spawnOf ctx p) ::
          (w.launch (spawnOf ctx p) s).1.heard.map .wrote⟩ := by
  have hs : (Runner.ofEnvironment ctx.environment Runner.defaultPatience).spawn p =
      spawnOf ctx p := rfl
  simp only [execute, attempt_bind, attempt_enter, Trace.andThen_ok, attempt_spawning, hs]
  cases (w.launch (spawnOf ctx p) s).1 with
  | refused e => simp [Runner.run, Launch.answer, Launch.heard]
  | broken f => simp [Runner.run, Launch.answer, Launch.heard]
  | started c =>
    obtain ⟨hc, hr⟩ := Runner.run_both (.ofEnvironment ctx.environment Runner.defaultPatience) p c
    simp [hc, hr, passOn, Launch.answer, Launch.heard]

def closingLines (ctx : Context) (target : PosixPath) : Except Stop Int → List Write
  | .ok status => ctx.console.info (ctx.settings.program ++ " exited with code " ++
      toString status ++ " for " ++ target.name)
  | .error _ => []

variable {ctx} in
theorem attempt_carryOut_dry (hd : ctx.console.dryRun = true) (target : PosixPath) (p : Plan) :
    attempt w s (carryOut ctx target p) =
      ⟨.ok 0, s, ((planLines p).flatMap ctx.console.dry).map .wrote⟩ := by
  simp [carryOut, hd, describe]

variable {ctx} in
theorem attempt_carryOut_real (hd : ctx.console.dryRun = false) (target : PosixPath) (p : Plan) :
    attempt w s (carryOut ctx target p) =
      ⟨(w.launch (spawnOf ctx p) s).1.answer p, (w.launch (spawnOf ctx p) s).2,
        (ctx.console.info ("Compiling " ++ target.toText)).map .wrote ++
          .entered .spawn :: .spawned (spawnOf ctx p) ::
          ((w.launch (spawnOf ctx p) s).1.heard ++
            closingLines ctx target ((w.launch (spawnOf ctx p) s).1.answer p)).map .wrote⟩ := by
  simp only [carryOut, hd, Bool.false_eq_true, if_false, attempt_bind, attempt_say,
    Trace.andThen_ok, attempt_execute]
  cases (w.launch (spawnOf ctx p) s).1.answer p with
  | error e => simp [closingLines]
  | ok status => simp [closingLines]

def verdictOf : Except Stop Int → Except Fault Verdict
  | .ok status => .ok (.exited status)
  | .error (.failure f) => .ok (.failed f)
  | .error (.fault f) => .error f

def reportLines (ctx : Context) : Except Stop Int → List Write
  | .error (.failure f) => ctx.console.errorOutput f.report
  | _ => []

/-- The trace of all steps, with the report of a failure behind it. -/
def reported (ctx : Context) (t : Trace σ (Except Stop Int)) : Trace σ (Except Fault Verdict) :=
  ⟨verdictOf t.answer, t.state, t.effects ++ (reportLines ctx t.answer).map .wrote⟩

theorem run_compile (path : String) :
    (compile ctx path).run w s = reported ctx (attempt w s (steps ctx path)) := by
  rw [compile, run_bind, attempt, reported]
  obtain ⟨answer, state, effects⟩ := (steps ctx path).run.run w s
  cases answer with
  | ok status => rfl
  | error stop => cases stop <;> rfl

section Course
variable {w s ctx} {s' : σ} {path : String} {stop : Stop} {target : PosixPath} {p : Plan}
  {es : List Effect}

theorem run_compile_stopped (h : attempt w s (preparation ctx path) = ⟨.error stop, s', es⟩) :
    (compile ctx path).run w s =
      ⟨verdictOf (.error stop), s', es ++ (reportLines ctx (.error stop)).map .wrote⟩ := by
  rw [run_compile, attempt_steps, h]
  rfl

theorem run_compile_dry (h : attempt w s (preparation ctx path) = ⟨.ok (target, p), s', es⟩)
    (hd : ctx.console.dryRun = true) :
    (compile ctx path).run w s =
      ⟨.ok (.exited 0), s', es ++ ((planLines p).flatMap ctx.console.dry).map .wrote⟩ := by
  rw [run_compile, attempt_steps, h, Trace.andThen_ok, attempt_carryOut_dry w s' hd, reported]
  simp [verdictOf, reportLines]

theorem run_compile_real (h : attempt w s (preparation ctx path) = ⟨.ok (target, p), s', es⟩)
    (hd : ctx.console.dryRun = false) :
    (compile ctx path).run w s =
      let l := w.launch (spawnOf ctx p) s'
      ⟨verdictOf (l.1.answer p), l.2,
        es ++ (ctx.console.info ("Compiling " ++ target.toText)).map .wrote ++
          .entered .spawn :: .spawned (spawnOf ctx p) :: (l.1.heard ++
            closingLines ctx target (l.1.answer p) ++ reportLines ctx (l.1.answer p)).map .wrote⟩ := by
  rw [run_compile, attempt_steps, h, Trace.andThen_ok, attempt_carryOut_real w s' hd, reported]
  simp

theorem filterMap_spawn?_preparation {a : Except Stop (PosixPath × Plan)}
    (h : attempt w s (preparation ctx path) = ⟨a, s', es⟩) : es.filterMap Effect.spawn? = [] := by
  have hp := prepared_preparation w s ctx path
  rw [h] at hp
  exact hp.spawns_eq

section Acts
variable {β : Type} {f : Effect → Option β} (hf : ∀ a, f (.wrote a) = none)
include hf

theorem filterMap_compile_stopped
    (h : attempt w s (preparation ctx path) = ⟨.error stop, s', es⟩) :
    ((compile ctx path).run w s).effects.filterMap f = es.filterMap f := by
  rw [run_compile_stopped h, List.filterMap_append, Effect.filterMap_wrote hf, List.append_nil]

theorem filterMap_compile_dry
    (h : attempt w s (preparation ctx path) = ⟨.ok (target, p), s', es⟩)
    (hd : ctx.console.dryRun = true) :
    ((compile ctx path).run w s).effects.filterMap f = es.filterMap f := by
  rw [run_compile_dry h hd, List.filterMap_append, Effect.filterMap_wrote hf, List.append_nil]

theorem filterMap_compile_real
    (h : attempt w s (preparation ctx path) = ⟨.ok (target, p), s', es⟩)
    (hd : ctx.console.dryRun = false) :
    ((compile ctx path).run w s).effects.filterMap f =
      es.filterMap f ++ [Effect.entered .spawn, .spawned (spawnOf ctx p)].filterMap f := by
  rw [run_compile_real h hd]
  simp only [List.filterMap_append, List.filterMap_cons, Effect.filterMap_wrote hf,
    List.filterMap_nil, List.append_nil]

end Acts

theorem spawns_compile_stopped (h : attempt w s (preparation ctx path) = ⟨.error stop, s', es⟩) :
    ((compile ctx path).run w s).spawns = [] := by
  rw [Trace.spawns, filterMap_compile_stopped (fun _ => rfl) h, filterMap_spawn?_preparation h]

theorem spawns_compile_dry (h : attempt w s (preparation ctx path) = ⟨.ok (target, p), s', es⟩)
    (hd : ctx.console.dryRun = true) : ((compile ctx path).run w s).spawns = [] := by
  rw [Trace.spawns, filterMap_compile_dry (fun _ => rfl) h hd, filterMap_spawn?_preparation h]

theorem spawns_compile_real (h : attempt w s (preparation ctx path) = ⟨.ok (target, p), s', es⟩)
    (hd : ctx.console.dryRun = false) :
    ((compile ctx path).run w s).spawns = [spawnOf ctx p] := by
  rw [Trace.spawns, filterMap_compile_real (fun _ => rfl) h hd, filterMap_spawn?_preparation h]
  rfl

theorem probes_compile_dry (h : attempt w s (preparation ctx path) = ⟨.ok (target, p), s', es⟩)
    (hd : ctx.console.dryRun = true) :
    ((compile ctx path).run w s).probes = es.filterMap Effect.probe? :=
  filterMap_compile_dry (fun _ => rfl) h hd

theorem probes_compile_real (h : attempt w s (preparation ctx path) = ⟨.ok (target, p), s', es⟩)
    (hd : ctx.console.dryRun = false) :
    ((compile ctx path).run w s).probes = es.filterMap Effect.probe? := by
  rw [Trace.probes, filterMap_compile_real (fun _ => rfl) h hd]
  exact List.append_nil _

/-- What a compile probes, learns and starts, if it starts anything. -/
theorem exists_toolchain_of_mem_spawns {sp : Spawn}
    (hsp : sp ∈ ((compile ctx path).run w s).spawns) :
    ∃ target executable t,
      targetOn (w.host s) path = .ok target ∧
      executableOn ctx (w.host s) = some executable ∧
      judged ctx executable (w.probe (probeCall ctx executable) s).1 = .ok t ∧
      ((compile ctx path).run w s).probes = [probeCall ctx executable] ∧
      ((compile ctx path).run w s).spawns =
        [spawnOf ctx
          (planOn ctx (w.host (afterProbe w s ctx executable)) executable t target)] := by
  have hp := prepared_preparation w s ctx path
  rcases ht : attempt w s (preparation ctx path) with ⟨stop | ⟨target, p⟩, s', es⟩
  · rw [spawns_compile_stopped ht] at hsp
    cases hsp
  · cases hd : ctx.console.dryRun with
    | true =>
      rw [spawns_compile_dry ht hd] at hsp
      cases hsp
    | false =>
      have hprobes := probes_compile_real ht hd
      have hspawns := spawns_compile_real ht hd
      rw [ht] at hp
      cases hp with
      | planned htarget hf hj _ =>
        rw [probes_plannedEffects] at hprobes
        exact ⟨_, _, _, htarget, hf, hj, hprobes, hspawns⟩

theorem exists_plan_of_mem_spawns {sp : Spawn} (hsp : sp ∈ ((compile ctx path).run w s).spawns) :
    ∃ target executable t,
      targetOn (w.host s) path = .ok target ∧
      executableOn ctx (w.host s) = some executable ∧
      ((compile ctx path).run w s).probes = [probeCall ctx executable] ∧
      ((compile ctx path).run w s).spawns =
        [spawnOf ctx
          (planOn ctx (w.host (afterProbe w s ctx executable)) executable t target)] := by
  obtain ⟨target, executable, t, ht, hf, -, h⟩ := exists_toolchain_of_mem_spawns hsp
  exact ⟨target, executable, t, ht, hf, h⟩

/-- A compile whose stages all go well, and which is not dry, starts what it planned. -/
theorem spawns_compile_of_planned {executable : PosixPath} {t : Toolchain}
    (ht : targetOn (w.host s) path = .ok target)
    (hf : executableOn ctx (w.host s) = some executable)
    (hj : judged ctx executable (w.probe (probeCall ctx executable) s).1 = .ok t)
    (hp : planFault? ctx (w.host (afterProbe w s ctx executable)) = none)
    (hd : ctx.console.dryRun = false) :
    ((compile ctx path).run w s).spawns =
      [spawnOf ctx
        (planOn ctx (w.host (afterProbe w s ctx executable)) executable t target)] :=
  spawns_compile_real (attempt_preparation_of_planned ht hf hj hp) hd

end Course

/-- A world that stays as it is: every probe finds a compiler, and no child can be started. -/
def still (h : Host) : World Unit where
  host _ := h
  probe _ _ := (.finished 0 "" "", ())
  launch _ _ := (.refused (.plain "no child"), ())

variable {ctx} in
theorem spawns_compile_still {h : Host} {path : String} {target executable : PosixPath}
    (ht : targetOn h path = .ok target) (hf : executableOn ctx h = some executable)
    (hp : planFault? ctx h = none) (hd : ctx.console.dryRun = false) :
    ((compile ctx path).run (still h) ()).spawns =
      [spawnOf ctx (planOn ctx h executable ⟨"", .ofVersionText ""⟩ target)] :=
  spawns_compile_of_planned ht hf rfl hp hd

end Compile
end Typeset
