import Typeset.Compile.Document
import Typeset.Proofs.Compile.Interleaving

/-!
# Attempts in order

A compile begins by resolving its path, and it does not do so again, whatever it is answered. When
compiles take turns the first round begins them one after the other, and no later round begins any.
-/

namespace Typeset

namespace Job
variable {α β ε σ : Type} {stage : Stage}

/-- Whatever a job is answered, it does not go into a stage. -/
def Avoids (stage : Stage) : Job α → Prop
  | .done _ => True
  | .enter entered next => entered ≠ stage ∧ Avoids stage next
  | .write _ next => Avoids stage next
  | .look next => ∀ h, Avoids stage (next h)
  | .probe _ next => ∀ o, Avoids stage (next o)
  | .spawn _ next => ∀ l, Avoids stage (next l)
  | .pause next => Avoids stage next

namespace Avoids
variable {j : Job α} (w : World σ)

theorem bind {f : α → Job β} (hj : j.Avoids stage) (hf : ∀ a, (f a).Avoids stage) :
    (j.bind f).Avoids stage := by
  induction j with
  | done a => exact hf a
  | enter entered next ih => exact ⟨hj.1, ih hj.2⟩
  | write text next ih => exact ih hj
  | look next ih => exact fun h => ih h (hj h)
  | probe c next ih => exact fun o => ih o (hj o)
  | spawn p next ih => exact fun l => ih l (hj l)
  | pause next ih => exact ih hj

theorem bindExcept {x : ExceptT ε Job α} {f : α → ExceptT ε Job β} (hx : Avoids stage x.run)
    (hf : ∀ a, Avoids stage (f a).run) : Avoids stage (x >>= f).run := by
  refine bind hx fun a => ?_
  cases a with
  | ok a => exact hf a
  | error e => trivial

theorem say (ws : List Write) : (Job.say ws).Avoids stage := by
  induction ws with
  | nil => trivial
  | cons a ws ih => exact ih

theorem step (h : j.Avoids stage) (s : σ) :
    (j.step w s).answer.Avoids stage ∧ (j.step w s).effects.count (.entered stage) = 0 := by
  cases j with
  | enter entered next => exact ⟨h.2, List.count_eq_zero.2 (by simpa [Job.step] using h.1.symm)⟩
  | done a => exact ⟨h, rfl⟩
  | write text next => exact ⟨h, by simp [Job.step]⟩
  | look next => exact ⟨h _, rfl⟩
  | probe c next => exact ⟨h _, by simp [Job.step]⟩
  | spawn p next => exact ⟨h _, by simp [Job.step]⟩
  | pause next => exact ⟨h, rfl⟩

theorem walk (h : j.Avoids stage) (n : Nat) (s : σ) :
    (j.walk w n s).answer.Avoids stage ∧ (j.walk w n s).effects.count (.entered stage) = 0 := by
  induction n generalizing j s with
  | zero => exact ⟨h, rfl⟩
  | succ n ih =>
    obtain ⟨hnext, hcount⟩ := h.step w s
    obtain ⟨hlast, hrest⟩ := ih hnext (j.step w s).state
    refine ⟨hlast, ?_⟩
    simp only [Job.walk, Trace.bind, List.count_append, hcount, hrest]

theorem turn (h : j.Avoids stage) (s : σ) :
    (j.turn w s).answer.Avoids stage ∧ (j.turn w s).effects.count (.entered stage) = 0 := by
  obtain ⟨n, hn⟩ := j.exists_walk_turn w s
  rw [← hn]
  exact h.walk w n s

theorem run (h : j.Avoids stage) (s : σ) : (j.run w s).effects.count (.entered stage) = 0 := by
  have hwalk := (h.walk w (j.length w s) s).2
  rwa [walk_of_length_le (Nat.le_refl _)] at hwalk

end Avoids

/-- A job begins with a stage, and goes into it no second time. -/
def Begins (stage : Stage) (j : Job α) : Prop := ∃ next, j = .enter stage next ∧ next.Avoids stage

namespace Begins
variable {j : Job α} (w : World σ)

theorem turn (h : j.Begins stage) (s : σ) :
    (j.turn w s).answer.Avoids stage ∧ (j.turn w s).effects.count (.entered stage) = 1 := by
  obtain ⟨next, rfl, hnext⟩ := h
  obtain ⟨hlast, hcount⟩ := hnext.turn w s
  refine ⟨hlast, ?_⟩
  simp only [Job.turn, List.count_cons_self, hcount]

theorem run (h : j.Begins stage) (s : σ) : (j.run w s).effects.count (.entered stage) = 1 := by
  obtain ⟨next, rfl, hnext⟩ := h
  simp only [Job.run, List.count_cons_self, hnext.run w s]

end Begins

theorem forall_mem_answer_each {f : σ → Job α → Trace σ β} {P : Job α → Prop} {Q : β → Prop}
    (hf : ∀ j, P j → ∀ s, Q (f s j).answer) {js : List (Job α)} (h : ∀ j ∈ js, P j) (s : σ) :
    ∀ b ∈ (each f s js).answer, Q b := by
  induction js generalizing s with
  | nil => rintro _ ⟨⟩
  | cons j js ih =>
    rintro b (_ | ⟨_, hb⟩)
    · exact hf j (h j (.head _)) s
    · exact ih (fun k hk => h k (.tail _ hk)) _ b hb

end Job

namespace Pool
open Job
variable {α β σ : Type}

/-- Who goes into a stage, in the order of a log. -/
def entries (stage : Stage) (log : List (Nat × Effect)) : List Nat :=
  log.filterMap fun e => if e.2 = .entered stage then some e.1 else none

variable {stage : Stage}

theorem entries_append (a b : List (Nat × Effect)) :
    entries stage (a ++ b) = entries stage a ++ entries stage b :=
  List.filterMap_append

theorem entries_map (i : Nat) (es : List Effect) :
    entries stage (es.map (Prod.mk i)) = List.replicate (es.count (.entered stage)) i := by
  induction es with
  | nil => rfl
  | cons e es ih =>
    by_cases he : e = .entered stage
    · subst he
      rw [List.count_cons_self, List.replicate_succ, ← ih]
      simp [entries]
    · rw [List.count_cons_of_ne he, ← ih]
      simp [entries, he]

section Each
variable {f : σ → Job α → Trace σ β} {js : List (Job α)}

theorem entries_logEach_eq_nil
    (h : ∀ j ∈ js, ∀ s, (f s j).effects.count (.entered stage) = 0) (i : Nat) (s : σ) :
    entries stage (logEach f i s js) = [] := by
  induction js generalizing i s with
  | nil => rfl
  | cons j js ih =>
    rw [logEach, entries_append, entries_map, h j (.head _), ih fun k hk => h k (.tail _ hk)]
    rfl

theorem entries_logEach
    (h : ∀ j ∈ js, ∀ s, (f s j).effects.count (.entered stage) = 1) (i : Nat) (s : σ) :
    entries stage (logEach f i s js) = List.range' i js.length := by
  induction js generalizing i s with
  | nil => rfl
  | cons j js ih =>
    rw [logEach, entries_append, entries_map, h j (.head _), ih fun k hk => h k (.tail _ hk)]
    rfl

end Each

theorem entries_logTogether_eq_nil (w : World σ) (rounds : Nat) {js : List (Job α)}
    (h : ∀ j ∈ js, j.Avoids stage) (s : σ) : entries stage (logTogether w rounds s js) = [] := by
  induction rounds generalizing js s with
  | zero => exact entries_logEach_eq_nil (fun j hj => (h j hj).run w) 0 s
  | succ rounds ih =>
    have hrest := forall_mem_answer_each (fun j hj s => (Avoids.turn w hj s).1) h s
    rw [logTogether, entries_append, ih hrest,
      entries_logEach_eq_nil (fun j hj s => ((h j hj).turn w s).2), List.append_nil]

/-- Jobs that begin with a stage are begun in their order, each of them once. -/
theorem entries_logTogether (w : World σ) (rounds : Nat) {js : List (Job α)}
    (h : ∀ j ∈ js, j.Begins stage) (s : σ) :
    entries stage (logTogether w rounds s js) = List.range js.length := by
  rw [List.range_eq_range']
  cases rounds with
  | zero => exact entries_logEach (fun j hj => (h j hj).run w) 0 s
  | succ rounds =>
    have hrest := forall_mem_answer_each (fun j hj s => (Begins.turn w hj s).1) h s
    rw [logTogether, entries_append, entries_logTogether_eq_nil w rounds hrest, List.append_nil,
      entries_logEach (fun j hj s => ((h j hj).turn w s).2)]

end Pool

namespace Compile
open Job

variable {stage : Stage}

@[simp] theorem avoids_enter {entered : Stage} :
    Avoids stage (enter entered).run ↔ entered ≠ stage :=
  ⟨And.left, fun h => ⟨h, trivial⟩⟩

theorem avoids_say (ws : List Write) : Avoids stage (say ws).run :=
  (Avoids.say ws).bind fun _ => trivial

theorem avoids_host : Avoids stage host.run := fun _ => trivial

theorem avoids_probing (c : Probe.Call) :
    Avoids stage (ExceptT.lift (.probe c .done) : ExceptT Stop Job Probe.Outcome).run :=
  fun _ => trivial

theorem avoids_spawning (p : Spawn) :
    Avoids stage (ExceptT.lift (.spawn p .done) : ExceptT Stop Job Launch).run :=
  fun _ => trivial

theorem avoids_check (f : Option Fault) : Avoids stage (check f).run := by
  cases f with
  | none => trivial
  | some f => trivial

variable (ctx : Context)

theorem avoids_findExecutable (h : Stage.findExecutable ≠ stage) :
    Avoids stage (findExecutable ctx).run := by
  refine (avoids_enter.2 h).bindExcept fun _ => avoids_host.bindExcept fun host => ?_
  split
  · trivial
  · exact (avoids_say _).bindExcept fun _ => trivial

theorem avoids_probe (h : Stage.probe ≠ stage) (executable : PosixPath) :
    Avoids stage (probe ctx executable).run := by
  refine (avoids_enter.2 h).bindExcept fun _ => (avoids_probing _).bindExcept fun outcome => ?_
  split
  · trivial
  · exact (avoids_say _).bindExcept fun _ => trivial

theorem avoids_locateTexmf (h : Stage.locateTexmf ≠ stage) : Avoids stage (locateTexmf ctx).run := by
  refine (avoids_enter.2 h).bindExcept fun _ => avoids_host.bindExcept fun host => ?_
  refine (avoids_check _).bindExcept fun _ => ?_
  dsimp only
  split
  · exact (avoids_say _).bindExcept fun _ => trivial
  · trivial

theorem avoids_composeOverlay (h : Stage.composeOverlay ≠ stage) (tree : Option Texmf) :
    Avoids stage (composeOverlay ctx tree).run :=
  (avoids_enter.2 h).bindExcept fun _ => avoids_host.bindExcept fun _ =>
    (avoids_check _).bindExcept fun _ => trivial

theorem avoids_buildArguments (h : Stage.buildArguments ≠ stage) (t : Toolchain)
    (tree : Option Texmf) : Avoids stage (buildArguments ctx t tree).run :=
  (avoids_enter.2 h).bindExcept fun _ => trivial

theorem avoids_execute (h : Stage.spawn ≠ stage) (p : Plan) : Avoids stage (execute ctx p).run := by
  refine (avoids_enter.2 h).bindExcept fun _ => (avoids_spawning _).bindExcept fun launch => ?_
  have hpass : ∀ run, Avoids stage (passOn run).run :=
    fun run => (avoids_say _).bindExcept fun _ => trivial
  dsimp only
  split
  · trivial
  · trivial
  · exact (hpass _).bindExcept fun _ => trivial
  · exact (hpass _).bindExcept fun _ => trivial

theorem avoids_compileTarget (target : PosixPath) :
    Avoids .resolveTarget (compileTarget ctx target).run := by
  have hplan : Avoids .resolveTarget (plan ctx target).run := by
    refine (avoids_findExecutable ctx (by decide)).bindExcept fun executable => ?_
    refine (avoids_probe ctx (by decide) executable).bindExcept fun toolchain => ?_
    refine (avoids_locateTexmf ctx (by decide)).bindExcept fun tree => ?_
    refine (avoids_composeOverlay ctx (by decide) tree).bindExcept fun overlay => ?_
    exact (avoids_buildArguments ctx (by decide) toolchain tree).bindExcept fun arguments => trivial
  refine hplan.bindExcept fun p => ?_
  split
  · exact (avoids_say _).bindExcept fun _ => trivial
  · refine (avoids_say _).bindExcept fun _ => ?_
    refine (avoids_execute ctx (by decide) p).bindExcept fun status => ?_
    exact (avoids_say _).bindExcept fun _ => trivial

theorem avoids_report (a : Except Stop Int) : (report ctx a).Avoids stage := by
  rcases a with (f | f) | status
  · exact (Avoids.say _).bind fun _ => trivial
  · trivial
  · trivial

/-- A compile begins by resolving its path, and does so once. -/
theorem begins_compile (path : String) : (compile ctx path).Begins .resolveTarget := by
  let rest (h : Host) : ExceptT Stop Job Int :=
    ExceptT.mk (.done (targetOn h path)) >>= compileTarget ctx
  refine ⟨.look fun h => (rest h).run.bind (report ctx), rfl, fun h => ?_⟩
  have hrest : Avoids .resolveTarget (rest h).run :=
    .bindExcept trivial fun target => avoids_compileTarget ctx target
  exact hrest.bind fun a => avoids_report ctx a

variable {σ : Type}

/-- When documents are compiled together each of them is attempted once, in their order. -/
theorem entries_compileMany (w : World σ) (s : σ) (rounds : Nat) (paths : List String) :
    Pool.entries .resolveTarget (Pool.logTogether w rounds s (compileMany ctx paths)) =
      List.range paths.length := by
  have hbegins : ∀ j ∈ compileMany ctx paths, j.Begins .resolveTarget := by
    intro j hj
    obtain ⟨path, -, rfl⟩ := List.mem_map.1 hj
    exact begins_compile ctx path
  rw [Pool.entries_logTogether w rounds hbegins, length_compileMany]

end Compile
end Typeset
