import Typeset.Proofs.Compile.Course

/-!
# Dry runs

A dry run and a run share all stages up to the plan. So they fail there alike, and otherwise the one
shows what the other starts: the command, its directory and the variables laid over the environment.
-/

namespace Typeset

def Context.inMode (ctx : Context) (dryRun : Bool) : Context :=
  { ctx with console := { ctx.console with dryRun := dryRun } }

/-- A line that tells what a run would do. -/
def Write.isDry (a : Write) : Bool :=
  a.channel = .output && ['[', 'D', 'R', 'Y', ']', ' '].isPrefixOf a.text.toList

/-- A compile has no status, and nothing was started for it. -/
def Trace.FailsEarly {σ : Type} (t : Trace σ (Except Fault Verdict)) : Prop :=
  (∀ status, t.answer ≠ .ok (.exited status)) ∧ t.spawns = []

namespace Console

theorem isDry_labelled_dry (message : String) : (labelled .output "DRY" message).isDry = true := by
  simp [labelled, Write.isDry]

theorem isDry_of_mem_debug {c : Console} {message : String} {a : Write}
    (h : a ∈ c.debug message) : a.isDry = false := by
  unfold debug at h
  split at h
  · obtain rfl := List.mem_singleton.1 h
    simp [labelled, Write.isDry, List.isPrefixOf]
  · cases h

theorem flatMap_dry {c : Console} (h : c.dryRun = true) (lines : List String) :
    lines.flatMap c.dry = lines.map (labelled .output "DRY") := by
  have hline : c.dry = fun line => [labelled .output "DRY" line] := by
    funext line
    exact if_pos h
  rw [hline, List.map_eq_flatMap]

end Console

namespace Compile
open Job Effect

variable {σ : Type} {w : World σ} {s s' : σ} {ctx : Context} {path : String} {es : List Effect}

theorem filter_isDry_plannedLines (executable : PosixPath) (t : Toolchain) (tree : Option Texmf) :
    (plannedLines ctx executable t tree).filter Write.isDry = [] := by
  rw [List.filter_eq_nil_iff]
  intro a ha
  have hd : a.isDry = false := by
    rcases List.mem_append.1 ha with ha | ha
    · rcases List.mem_append.1 ha with ha | ha
      · exact Console.isDry_of_mem_debug ha
      · exact Console.isDry_of_mem_debug ha
    · unfold locatedLines at ha
      split at ha
      · exact Console.isDry_of_mem_debug ha
      · cases ha
  simp [hd]

theorem filter_isDry_labelled (lines : List String) :
    (lines.map (Console.labelled .output "DRY")).filter Write.isDry =
      lines.map (Console.labelled .output "DRY") := by
  rw [List.filter_eq_self]
  intro a ha
  obtain ⟨line, -, rfl⟩ := List.mem_map.1 ha
  exact Console.isDry_labelled_dry line

-- Nothing before the launch asks whether a run is dry, so what is known of a preparation holds in
-- either mode.

section Stopped
variable {stop : Stop} (h : attempt w s (preparation ctx path) = ⟨.error stop, s', es⟩)
include h

theorem run_inMode_of_stopped (dryRun : Bool) :
    (compile (ctx.inMode dryRun) path).run w s = (compile ctx path).run w s := by
  have h' : attempt w s (preparation (ctx.inMode dryRun) path) = _ := h
  rw [run_compile_stopped h, run_compile_stopped h']
  rfl

theorem failsEarly_of_stopped : ((compile ctx path).run w s).FailsEarly := by
  refine ⟨?_, spawns_compile_stopped h⟩
  rw [run_compile_stopped h]
  cases stop <;> rintro status ⟨⟩

end Stopped

section Planned
variable {executable target : PosixPath} {t : Toolchain} {tree : Option Texmf} {p : Plan}
  (h : attempt w s (preparation ctx path) =
    ⟨.ok (target, p), s', plannedEffects ctx executable t tree⟩)
include h

theorem run_inMode_true :
    (compile (ctx.inMode true) path).run w s =
      ⟨.ok (.exited 0), s', plannedEffects ctx executable t tree ++
        ((planLines p).map (Console.labelled .output "DRY")).map .wrote⟩ := by
  have h' : attempt w s (preparation (ctx.inMode true) path) = _ := h
  rw [run_compile_dry h' rfl, Console.flatMap_dry rfl]

theorem writes_run_inMode_true :
    ((compile (ctx.inMode true) path).run w s).writes.filter Write.isDry =
      (planLines p).map (Console.labelled .output "DRY") := by
  rw [run_inMode_true h, Trace.writes, List.filterMap_append, writes_plannedEffects,
    filterMap_write?_wrote, List.filter_append, filter_isDry_plannedLines, List.nil_append,
    filter_isDry_labelled]

theorem spawns_run_inMode_true : ((compile (ctx.inMode true) path).run w s).spawns = [] := by
  have h' : attempt w s (preparation (ctx.inMode true) path) = _ := h
  exact spawns_compile_dry h' rfl

theorem probes_run_inMode_true :
    ((compile (ctx.inMode true) path).run w s).probes = [probeCall ctx executable] := by
  have h' : attempt w s (preparation (ctx.inMode true) path) = _ := h
  rw [probes_compile_dry h' rfl, probes_plannedEffects]

theorem spawns_run_inMode_false :
    ((compile (ctx.inMode false) path).run w s).spawns = [spawnOf ctx p] := by
  have h' : attempt w s (preparation (ctx.inMode false) path) = _ := h
  exact spawns_compile_real h' rfl

theorem probes_run_inMode_false :
    ((compile (ctx.inMode false) path).run w s).probes = [probeCall ctx executable] := by
  have h' : attempt w s (preparation (ctx.inMode false) path) = _ := h
  rw [probes_compile_real h' rfl, probes_plannedEffects]

end Planned

/-- A dry run fails before the launch exactly when the run does, and then the two are the same.
Otherwise the run starts one child, and the dry run starts none, has status zero and shows, line by
line, the command and the directory of that child and what is laid over the environment for it. Both
make one and the same call to probe the compiler. -/
theorem dry_run_shows_run (w : World σ) (s : σ) (ctx : Context) (path : String) :
    let dry := (compile (ctx.inMode true) path).run w s
    let real := (compile (ctx.inMode false) path).run w s
    (dry.FailsEarly ↔ real.FailsEarly) ∧ (dry.FailsEarly → dry = real) ∧
      (¬dry.FailsEarly → ∃ call command directory overlay,
        dry.answer = .ok (.exited 0) ∧ dry.spawns = [] ∧
        dry.writes.filter Write.isDry =
          (Shell.format command :: ("      (cwd: " ++ directory.toText ++ ")") ::
            overlay.pairs.map fun v => "      (env: " ++ v.1 ++ "=" ++ v.2 ++ ")").map
              (Console.labelled .output "DRY") ∧
        (overlay.pairs.map Prod.fst).Nodup ∧
        real.spawns = [⟨command, directory, ctx.environment.overlay overlay⟩] ∧
        dry.probes = [call] ∧ real.probes = [call]) := by
  intro dry real
  have hp := prepared_preparation w s ctx path
  rcases ht : attempt w s (preparation ctx path) with ⟨stop | ⟨target, p⟩, s', es⟩
  · have hsame : dry = real := by
      simp only [dry, real, run_inMode_of_stopped ht]
    have hearly : dry.FailsEarly := by
      simp only [dry, run_inMode_of_stopped ht]
      exact failsEarly_of_stopped ht
    exact ⟨by rw [hsame], fun _ => hsame, fun hn => absurd hearly hn⟩
  · rw [ht] at hp
    cases hp with
    | @planned _ executable t htarget hf hj =>
      have hdry : ¬dry.FailsEarly := by
        intro h
        apply h.1 0
        simp only [dry, run_inMode_true ht]
      have hreal : ¬real.FailsEarly := by
        intro h
        have hn := h.2
        simp only [real, spawns_run_inMode_false ht] at hn
        cases hn
      refine ⟨by simp only [hdry, hreal], fun h => absurd h hdry, fun _ => ?_⟩
      refine ⟨probeCall ctx executable, _, _, _, ?_, spawns_run_inMode_true ht,
        writes_run_inMode_true ht, nodup_names_compilerOverlay _ _ _ _ _,
        spawns_run_inMode_false ht, probes_run_inMode_true ht, probes_run_inMode_false ht⟩
      simp only [dry, run_inMode_true ht]

end Compile
end Typeset
