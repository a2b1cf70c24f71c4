import Typeset.Proofs.Compile.Course

/-!
# The order of the stages

Apart from what it writes, a compile does one thing after the other along a fixed course, and it stops
where a stage fails. How far it comes is told by cases, and the rest is read off them.
-/

namespace Typeset

def Stage.course : List Stage :=
  [.resolveTarget, .findExecutable, .probe, .locateTexmf, .composeOverlay, .buildArguments, .spawn]

def Stage.before (stage : Stage) : List Stage := course.takeWhile (· ≠ stage)

namespace Effect

/-- What there is to do, from the first stage to the start of the compiler. -/
def course (call : Probe.Call) (sp : Spawn) : List Effect :=
  [.entered .resolveTarget, .entered .findExecutable, .entered .probe, .probed call,
    .entered .locateTexmf, .entered .composeOverlay, .entered .buildArguments, .entered .spawn,
    .spawned sp]

end Effect

namespace Trace
variable {σ α : Type}

def stages (t : Trace σ α) : List Stage := t.effects.filterMap Effect.stage?

def acts (t : Trace σ α) : List Effect := t.effects.filterMap Effect.act?

theorem stages_eq (t : Trace σ α) : t.stages = t.acts.filterMap Effect.stage? :=
  (Effect.filterMap_act? (fun _ => rfl) t.effects).symm

theorem probes_eq (t : Trace σ α) : t.probes = t.acts.filterMap Effect.probe? :=
  (Effect.filterMap_act? (fun _ => rfl) t.effects).symm

theorem spawns_eq (t : Trace σ α) : t.spawns = t.acts.filterMap Effect.spawn? :=
  (Effect.filterMap_act? (fun _ => rfl) t.effects).symm

end Trace

namespace Compile
open Job Effect

variable {σ : Type} (w : World σ) (s : σ) (ctx : Context) (path : String)

/-- A stage before the start of the compiler succeeds. A tree that is absent is no failure, but there must
be a directory from which one is looked for, and a code for every text of the variables. -/
def Succeeds : Stage → Prop
  | .resolveTarget => ∃ target, (w.host s).resolve path = .ok target
  | .findExecutable => ∃ executable, executableOn ctx (w.host s) = some executable
  | .probe => ∃ executable output errors, executableOn ctx (w.host s) = some executable ∧
      (w.probe (probeCall ctx executable) s).1 = .finished 0 output errors
  | .locateTexmf => ∀ executable, executableOn ctx (w.host s) = some executable →
      treeFault? ctx (w.host (afterProbe w s ctx executable)) = none
  | .composeOverlay => ∀ executable, executableOn ctx (w.host s) = some executable →
      composingFault? ctx (w.host (afterProbe w s ctx executable))
        (treeOn ctx (w.host (afterProbe w s ctx executable))) = none
  | .buildArguments | .spawn => True

/-- How far a compile comes, and why. -/
inductive Reaches : List Effect → Prop
  | unresolved (ht : ¬Succeeds w s ctx path .resolveTarget) : Reaches [.entered .resolveTarget]
  | notFound (ht : Succeeds w s ctx path .resolveTarget)
      (hf : ¬Succeeds w s ctx path .findExecutable) :
      Reaches [.entered .resolveTarget, .entered .findExecutable]
  | unprobed (ht : Succeeds w s ctx path .resolveTarget) {executable : PosixPath}
      (hf : executableOn ctx (w.host s) = some executable)
      (hp : ¬Succeeds w s ctx path .probe) :
      Reaches [.entered .resolveTarget, .entered .findExecutable, .entered .probe,
        .probed (probeCall ctx executable)]
  | unlocated (ht : Succeeds w s ctx path .resolveTarget) {executable : PosixPath}
      (hf : executableOn ctx (w.host s) = some executable)
      (hp : Succeeds w s ctx path .probe) (hl : ¬Succeeds w s ctx path .locateTexmf) :
      Reaches [.entered .resolveTarget, .entered .findExecutable, .entered .probe,
        .probed (probeCall ctx executable), .entered .locateTexmf]
  | uncomposed (ht : Succeeds w s ctx path .resolveTarget) {executable : PosixPath}
      (hf : executableOn ctx (w.host s) = some executable)
      (hp : Succeeds w s ctx path .probe) (hl : Succeeds w s ctx path .locateTexmf)
      (hc : ¬Succeeds w s ctx path .composeOverlay) :
      Reaches [.entered .resolveTarget, .entered .findExecutable, .entered .probe,
        .probed (probeCall ctx executable), .entered .locateTexmf, .entered .composeOverlay]
  | shown (ht : Succeeds w s ctx path .resolveTarget) {executable : PosixPath}
      (hf : executableOn ctx (w.host s) = some executable)
      (hp : Succeeds w s ctx path .probe) (hl : Succeeds w s ctx path .locateTexmf)
      (hc : Succeeds w s ctx path .composeOverlay) (hd : ctx.console.dryRun = true) :
      Reaches [.entered .resolveTarget, .entered .findExecutable, .entered .probe,
        .probed (probeCall ctx executable), .entered .locateTexmf, .entered .composeOverlay,
        .entered .buildArguments]
  | started (ht : Succeeds w s ctx path .resolveTarget) {executable : PosixPath}
      (hf : executableOn ctx (w.host s) = some executable)
      (hp : Succeeds w s ctx path .probe) (hl : Succeeds w s ctx path .locateTexmf)
      (hc : Succeeds w s ctx path .composeOverlay) (hd : ctx.console.dryRun = false) (sp : Spawn) :
      Reaches (course (probeCall ctx executable) sp)

variable {w s ctx path}

theorem succeeds_locateTexmf_iff {executable : PosixPath}
    (hf : executableOn ctx (w.host s) = some executable) :
    Succeeds w s ctx path .locateTexmf ↔
      treeFault? ctx (w.host (afterProbe w s ctx executable)) = none := by
  simp [Succeeds, hf]

theorem succeeds_composeOverlay_iff {executable : PosixPath}
    (hf : executableOn ctx (w.host s) = some executable) :
    Succeeds w s ctx path .composeOverlay ↔
      composingFault? ctx (w.host (afterProbe w s ctx executable))
        (treeOn ctx (w.host (afterProbe w s ctx executable))) = none := by
  simp [Succeeds, hf]

@[simp] theorem succeeds_buildArguments : Succeeds w s ctx path .buildArguments := trivial

theorem succeeds_resolveTarget_iff :
    Succeeds w s ctx path .resolveTarget ↔ ∃ target, targetOn (w.host s) path = .ok target := by
  show (∃ target, (w.host s).resolve path = .ok target) ↔ _
  unfold targetOn
  cases (w.host s).resolve path with
  | ok target => simp
  | error e => cases e <;> simp

theorem succeeds_probe_iff {executable : PosixPath}
    (hf : executableOn ctx (w.host s) = some executable) :
    Succeeds w s ctx path .probe ↔
      ∃ t, judged ctx executable (w.probe (probeCall ctx executable) s).1 = .ok t := by
  simp only [Succeeds, hf, Option.some.injEq, judged, Probe.judge_eq_ok_iff]
  constructor
  · rintro ⟨_, output, errors, rfl, h⟩
    exact ⟨_, output, errors, h, rfl⟩
  · rintro ⟨_, output, errors, h, -⟩
    exact ⟨_, output, errors, rfl, h⟩

section Acts
variable {s' : σ} {stop : Stop} {target : PosixPath} {p : Plan} {es : List Effect}

theorem acts_compile_stopped (h : attempt w s (preparation ctx path) = ⟨.error stop, s', es⟩) :
    ((compile ctx path).run w s).acts = es.filterMap act? :=
  filterMap_compile_stopped (fun _ => rfl) h

theorem acts_compile_dry (h : attempt w s (preparation ctx path) = ⟨.ok (target, p), s', es⟩)
    (hd : ctx.console.dryRun = true) :
    ((compile ctx path).run w s).acts = es.filterMap act? :=
  filterMap_compile_dry (fun _ => rfl) h hd

theorem acts_compile_real (h : attempt w s (preparation ctx path) = ⟨.ok (target, p), s', es⟩)
    (hd : ctx.console.dryRun = false) :
    ((compile ctx path).run w s).acts =
      es.filterMap act? ++ [.entered .spawn, .spawned (spawnOf ctx p)] :=
  filterMap_compile_real (fun _ => rfl) h hd

end Acts

theorem reaches_compile (w : World σ) (s : σ) (ctx : Context) (path : String) :
    Reaches w s ctx path ((compile ctx path).run w s).acts := by
  have hp := prepared_preparation w s ctx path
  generalize ha : attempt w s (preparation ctx path) = a at hp
  cases hp with
  | unresolved ht =>
    rw [acts_compile_stopped ha]
    refine .unresolved ?_
    rw [succeeds_resolveTarget_iff, ht]
    rintro ⟨_, ⟨⟩⟩
  | notFound ht hf =>
    rw [acts_compile_stopped ha]
    refine .notFound (succeeds_resolveTarget_iff.2 ⟨_, ht⟩) ?_
    rintro ⟨_, h⟩
    rw [hf] at h
    cases h
  | @unprobed target executable stop ht hf hj =>
    rw [acts_compile_stopped ha, acts_unprobed]
    refine .unprobed (succeeds_resolveTarget_iff.2 ⟨_, ht⟩) hf ?_
    rw [succeeds_probe_iff hf, hj]
    rintro ⟨_, ⟨⟩⟩
  | unlocated ht hf hj hl =>
    rw [acts_compile_stopped ha, acts_unlocated]
    refine .unlocated (succeeds_resolveTarget_iff.2 ⟨_, ht⟩) hf ((succeeds_probe_iff hf).2 ⟨_, hj⟩) ?_
    rw [succeeds_locateTexmf_iff hf, hl]
    rintro ⟨⟩
  | uncomposed ht hf hj hl hc =>
    rw [acts_compile_stopped ha, acts_composedEffects]
    refine .uncomposed (succeeds_resolveTarget_iff.2 ⟨_, ht⟩) hf ((succeeds_probe_iff hf).2 ⟨_, hj⟩)
      ((succeeds_locateTexmf_iff hf).2 hl) ?_
    rw [succeeds_composeOverlay_iff hf, hc]
    rintro ⟨⟩
  | planned ht hf hj hp =>
    obtain ⟨hl, hc⟩ := Option.or_eq_none_iff.1 hp
    have htarget : Succeeds w s ctx path .resolveTarget := succeeds_resolveTarget_iff.2 ⟨_, ht⟩
    have hprobe : Succeeds w s ctx path .probe := (succeeds_probe_iff hf).2 ⟨_, hj⟩
    have hlocate : Succeeds w s ctx path .locateTexmf := (succeeds_locateTexmf_iff hf).2 hl
    have hcompose : Succeeds w s ctx path .composeOverlay := (succeeds_composeOverlay_iff hf).2 hc
    cases hd : ctx.console.dryRun with
    | true =>
      rw [acts_compile_dry ha hd, acts_plannedEffects]
      exact .shown htarget hf hprobe hlocate hcompose hd
    | false =>
      rw [acts_compile_real ha hd, acts_plannedEffects]
      exact .started htarget hf hprobe hlocate hcompose hd _

namespace Reaches
variable {acts : List Effect} (h : Reaches w s ctx path acts)
include h

theorem exists_prefix : ∃ call sp, acts <+: course call sp := by
  let noCall : Probe.Call := ⟨[], .int 0⟩
  let noSpawn : Spawn := ⟨[], ⟨.root, []⟩, .empty⟩
  cases h with
  | unresolved ht => exact ⟨noCall, noSpawn, _, rfl⟩
  | notFound ht hf => exact ⟨noCall, noSpawn, _, rfl⟩
  | unprobed ht hf hp => exact ⟨_, noSpawn, _, rfl⟩
  | unlocated ht hf hp hl => exact ⟨_, noSpawn, _, rfl⟩
  | uncomposed ht hf hp hl hc => exact ⟨_, noSpawn, _, rfl⟩
  | shown ht hf hp hl hc hd => exact ⟨_, noSpawn, _, rfl⟩
  | started ht hf hp hl hc hd sp => exact ⟨_, sp, List.prefix_rfl⟩

theorem mem_stages_iff (stage : Stage) :
    stage ∈ acts.filterMap stage? ↔
      (∀ earlier ∈ stage.before, Succeeds w s ctx path earlier) ∧
        (stage = .spawn → ctx.console.dryRun = false) := by
  -- each way to go knows of every stage whether it succeeded, or that an earlier one failed
  cases h with
  | unresolved ht => cases stage <;> simp [Stage.before, Stage.course, stage?, ht]
  | notFound ht hf => cases stage <;> simp [Stage.before, Stage.course, stage?, ht, hf]
  | @unprobed ht executable hf hp =>
    have hfind : Succeeds w s ctx path .findExecutable := ⟨executable, hf⟩
    cases stage <;> simp [Stage.before, Stage.course, stage?, ht, hfind, hp]
  | @unlocated ht executable hf hp hl =>
    have hfind : Succeeds w s ctx path .findExecutable := ⟨executable, hf⟩
    cases stage <;> simp [Stage.before, Stage.course, stage?, ht, hfind, hp, hl]
  | @uncomposed ht executable hf hp hl hc =>
    have hfind : Succeeds w s ctx path .findExecutable := ⟨executable, hf⟩
    cases stage <;> simp [Stage.before, Stage.course, stage?, ht, hfind, hp, hl, hc]
  | @shown ht executable hf hp hl hc hd =>
    have hfind : Succeeds w s ctx path .findExecutable := ⟨executable, hf⟩
    cases stage <;> simp [Stage.before, Stage.course, stage?, ht, hfind, hp, hl, hc, hd]
  | @started ht executable hf hp hl hc hd sp =>
    have hfind : Succeeds w s ctx path .findExecutable := ⟨executable, hf⟩
    cases stage <;> simp [Stage.before, Stage.course, stage?, ht, hfind, hp, hl, hc, hd, course]

theorem eq_probeCall_of_mem {call : Probe.Call} (hc : call ∈ acts.filterMap probe?) :
    ∃ executable, executableOn ctx (w.host s) = some executable ∧
      call = probeCall ctx executable := by
  cases h with
  | unresolved ht => cases hc
  | notFound ht hf => cases hc
  | unprobed ht hf => exact ⟨_, hf, List.mem_singleton.1 hc⟩
  | unlocated ht hf => exact ⟨_, hf, List.mem_singleton.1 hc⟩
  | uncomposed ht hf => exact ⟨_, hf, List.mem_singleton.1 hc⟩
  | shown ht hf => exact ⟨_, hf, List.mem_singleton.1 hc⟩
  | started ht hf => exact ⟨_, hf, List.mem_singleton.1 hc⟩

theorem probes_ne_nil_iff : acts.filterMap probe? ≠ [] ↔ .probe ∈ acts.filterMap stage? := by
  cases h <;> simp [probe?, stage?, course]

theorem spawns_ne_nil_iff : acts.filterMap spawn? ≠ [] ↔ .spawn ∈ acts.filterMap stage? := by
  cases h <;> simp [spawn?, stage?, course]

theorem eq_course_of_mem {sp : Spawn} (hs : sp ∈ acts.filterMap spawn?) :
    ∃ executable, executableOn ctx (w.host s) = some executable ∧
      acts = course (probeCall ctx executable) sp := by
  cases h with
  | unresolved ht => cases hs
  | notFound ht hf => cases hs
  | unprobed ht hf hp => cases hs
  | unlocated ht hf hp hl => cases hs
  | uncomposed ht hf hp hl hc => cases hs
  | shown ht hf hp hl hc hd => cases hs
  | started ht hf hp hl hc hd sp' =>
    obtain rfl : sp = sp' := List.mem_singleton.1 hs
    exact ⟨_, hf, rfl⟩

end Reaches

/-- A compile goes through its stages in order. What it does besides writing is the beginning of one
course, on which every stage, the probe and the start of the compiler stand once. A stage is gone into
exactly if all earlier ones succeeded, the last one only if the run is not dry. The probe asks for
the flag of the executable within the configured time, and for nothing else: a call has no directory
and no variables of its own. When the compiler is started the probe has been answered. -/
structure InOrder (w : World σ) (s : σ) (ctx : Context) (path : String)
    (t : Trace σ (Except Fault Verdict)) : Prop where
  exists_prefix : ∃ call sp, t.acts <+: course call sp
  stages_prefix : t.stages <+: Stage.course
  mem_stages_iff : ∀ stage, stage ∈ t.stages ↔
    (∀ earlier ∈ stage.before, Succeeds w s ctx path earlier) ∧
      (stage = .spawn → ctx.console.dryRun = false)
  probes_ne_nil_iff : t.probes ≠ [] ↔ .probe ∈ t.stages
  eq_of_mem_probes : ∀ call ∈ t.probes, ∃ executable,
    executableOn ctx (w.host s) = some executable ∧
      call = ⟨[executable.toText, ctx.settings.probeFlag], ctx.settings.probeTimeout⟩
  spawns_ne_nil_iff : t.spawns ≠ [] ↔
    (∀ earlier ∈ Stage.spawn.before, Succeeds w s ctx path earlier) ∧ ctx.console.dryRun = false
  acts_of_mem_spawns : ∀ sp ∈ t.spawns, ∃ executable,
    executableOn ctx (w.host s) = some executable ∧
      t.acts = course ⟨[executable.toText, ctx.settings.probeFlag], ctx.settings.probeTimeout⟩ sp

theorem stages_in_order (w : World σ) (s : σ) (ctx : Context) (path : String) :
    InOrder w s ctx path ((compile ctx path).run w s) := by
  have h := reaches_compile w s ctx path
  generalize (compile ctx path).run w s = t at h
  refine ⟨h.exists_prefix, ?_, ?_, ?_, ?_, ?_, ?_⟩
  · obtain ⟨call, sp, hp⟩ := h.exists_prefix
    rw [t.stages_eq]
    exact hp.filterMap stage?
  · rw [t.stages_eq]
    exact h.mem_stages_iff
  · rw [t.probes_eq, t.stages_eq]
    exact h.probes_ne_nil_iff
  · rw [t.probes_eq]
    exact fun call hc => h.eq_probeCall_of_mem hc
  · rw [t.spawns_eq, h.spawns_ne_nil_iff, h.mem_stages_iff]
    simp only [forall_const]
  · rw [t.spawns_eq]
    exact fun sp hs => h.eq_course_of_mem hs

end Compile
end Typeset
