import Typeset.Compile.Job

/-!
# Jobs that take turns

Several jobs stand side by side, and a schedule says which of them goes on next, one step at a time.
Between two steps of one job there can be any steps of the others, so no interleaving is left out.
If the world keeps the jobs apart, each of them is always where it would be alone after as many steps.
-/

namespace Typeset

namespace Trace
variable {σ α β γ : Type}

protected def bind (t : Trace σ α) (next : α → σ → Trace σ β) : Trace σ β :=
  { next t.answer t.state with effects := t.effects ++ (next t.answer t.state).effects }

theorem bind_assoc (t : Trace σ α) (f : α → σ → Trace σ β) (g : β → σ → Trace σ γ) :
    (t.bind f).bind g = t.bind fun a s => (f a s).bind g := by
  simp only [Trace.bind, List.append_assoc]

/-- The end of jobs that have all been run. -/
def ended (t : Trace σ (List α)) : Trace σ (List (Job α)) :=
  ⟨t.answer.map .done, t.state, t.effects⟩

end Trace

namespace Job
variable {α σ : Type}

/-- Takes one step of a job. A job that has ended stays as it is. -/
def step (w : World σ) (s : σ) : Job α → Trace σ (Job α)
  | .done a => ⟨.done a, s, []⟩
  | .enter stage next => ⟨next, s, [.entered stage]⟩
  | .write text next => ⟨next, s, [.wrote text]⟩
  | .look next => ⟨next (w.host s), s, []⟩
  | .probe c next => ⟨next (w.probe c s).1, (w.probe c s).2, [.probed c]⟩
  | .spawn p next => ⟨next (w.launch p s).1, (w.launch p s).2, [.spawned p]⟩
  | .pause next => ⟨next, s, []⟩

def length (w : World σ) (s : σ) : Job α → Nat
  | .done _ => 0
  | .enter _ next => length w s next + 1
  | .write _ next => length w s next + 1
  | .look next => length w s (next (w.host s)) + 1
  | .probe c next => length w (w.probe c s).2 (next (w.probe c s).1) + 1
  | .spawn p next => length w (w.launch p s).2 (next (w.launch p s).1) + 1
  | .pause next => length w s next + 1

def answer? : Job α → Option α
  | .done a => some a
  | _ => none

def walk (w : World σ) : Nat → σ → Job α → Trace σ (Job α)
  | 0, s, j => ⟨j, s, []⟩
  | n + 1, s, j => (j.step w s).bind fun k s => walk w n s k

section Alone
variable (w : World σ) (s : σ) (j : Job α)

theorem run_step : (j.step w s).bind (fun k s => k.run w s) = j.run w s := by
  cases j <;> rfl

theorem length_step :
    (j.step w s).answer.length w (j.step w s).state = j.length w s - 1 := by
  cases j <;> rfl

theorem run_walk (n : Nat) : (j.walk w n s).bind (fun k s => k.run w s) = j.run w s := by
  induction n generalizing s j with
  | zero => rfl
  | succ n ih => simp only [walk, Trace.bind_assoc, ih, run_step]

theorem length_walk (n : Nat) :
    (j.walk w n s).answer.length w (j.walk w n s).state = j.length w s - n := by
  induction n generalizing s j with
  | zero => rfl
  | succ n ih =>
    have h := ih (j.step w s).state (j.step w s).answer
    rw [length_step, Nat.sub_sub, Nat.add_comm] at h
    exact h

theorem effects_walk_prefix (n : Nat) : (j.walk w n s).effects <+: (j.run w s).effects := by
  rw [← run_walk w s j n]
  exact List.prefix_append _ _

theorem exists_walk_of_step {t : Trace σ (Job α)}
    (h : ∃ n, (j.step w s).answer.walk w n (j.step w s).state = t) :
    ∃ n, j.walk w n s = (j.step w s).bind fun _ _ => t := by
  obtain ⟨n, rfl⟩ := h
  exact ⟨n + 1, rfl⟩

/-- The turns of a job are made of its steps. -/
theorem exists_walk_turn : ∃ n, j.walk w n s = j.turn w s := by
  induction j generalizing s with
  | done a => exact ⟨0, rfl⟩
  | pause next ih => exact ⟨1, rfl⟩
  | enter stage next ih => exact exists_walk_of_step w s (.enter stage next) (ih s)
  | write text next ih => exact exists_walk_of_step w s (.write text next) (ih s)
  | look next ih => exact exists_walk_of_step w s (.look next) (ih _ s)
  | probe c next ih => exact exists_walk_of_step w s (.probe c next) (ih _ _)
  | spawn p next ih => exact exists_walk_of_step w s (.spawn p next) (ih _ _)

variable {w s j}

theorem length_eq_zero_iff : j.length w s = 0 ↔ ∃ a, j = .done a := by
  cases j <;> simp [length]

/-- After all its steps a job has ended, and it has done all that it does. -/
theorem walk_of_length_le {n : Nat} (h : j.length w s ≤ n) :
    j.walk w n s = ⟨.done (j.run w s).answer, (j.run w s).state, (j.run w s).effects⟩ := by
  have hlength := length_walk w s j n
  have hrun := run_walk w s j n
  rw [Nat.sub_eq_zero_of_le h] at hlength
  obtain ⟨a, ha⟩ := length_eq_zero_iff.1 hlength
  -- no steps are left, so what is still to be run does nothing
  generalize j.walk w n s = t at ha hrun
  obtain ⟨k, s', es⟩ := t
  obtain rfl : k = .done a := ha
  rw [← hrun]
  simp only [Trace.bind, run, List.append_nil]

theorem length_le_of_walk {n : Nat} {a : α} (h : (j.walk w n s).answer = .done a) :
    j.length w s ≤ n := by
  have hlength := length_walk w s j n
  rw [h] at hlength
  exact Nat.le_of_sub_eq_zero hlength.symm

end Alone

end Job

/-- Worlds, one for each job, keep the jobs apart: what a job is answered depends on its own part of
the state, and what it asks for leaves the parts of the others as they are. -/
structure World.Apart {σ τ : Type} (w : Nat → World σ) (part : Nat → σ → τ) : Prop where
  host : ∀ {i s s'}, part i s = part i s' → (w i).host s = (w i).host s'
  probe : ∀ {i s s'}, part i s = part i s' → ∀ c,
    ((w i).probe c s).1 = ((w i).probe c s').1 ∧
      part i ((w i).probe c s).2 = part i ((w i).probe c s').2
  launch : ∀ {i s s'}, part i s = part i s' → ∀ p,
    ((w i).launch p s).1 = ((w i).launch p s').1 ∧
      part i ((w i).launch p s).2 = part i ((w i).launch p s').2
  probe_of_ne : ∀ {i k}, i ≠ k → ∀ c s, part k ((w i).probe c s).2 = part k s
  launch_of_ne : ∀ {i k}, i ≠ k → ∀ p s, part k ((w i).launch p s).2 = part k s

namespace World.Apart
variable {σ τ α : Type} {w : Nat → World σ} {part : Nat → σ → τ}

theorem step_congr (hw : Apart w part) {i : Nat} {s s' : σ} (h : part i s = part i s') (j : Job α) :
    (j.step (w i) s).answer = (j.step (w i) s').answer ∧
      (j.step (w i) s).effects = (j.step (w i) s').effects ∧
      part i (j.step (w i) s).state = part i (j.step (w i) s').state := by
  cases j with
  | look next => exact ⟨congrArg next (hw.host h), rfl, h⟩
  | probe c next => exact ⟨congrArg next (hw.probe h c).1, rfl, (hw.probe h c).2⟩
  | spawn p next => exact ⟨congrArg next (hw.launch h p).1, rfl, (hw.launch h p).2⟩
  | _ => exact ⟨rfl, rfl, h⟩

theorem part_step (hw : Apart w part) {i k : Nat} (h : i ≠ k) (s : σ) (j : Job α) :
    part k (j.step (w i) s).state = part k s := by
  cases j with
  | probe c next => exact hw.probe_of_ne h c s
  | spawn p next => exact hw.launch_of_ne h p s
  | _ => rfl

end World.Apart

/-- Jobs side by side, with what each of them has done so far. -/
structure Pool (σ α : Type) where
  jobs : List (Job α)
  state : σ
  log : List (Nat × Effect)

namespace Pool
variable {σ τ α : Type}

def start (s : σ) (js : List (Job α)) : Pool σ α := ⟨js, s, []⟩

def pick (w : Nat → World σ) (p : Pool σ α) (i : Nat) : Pool σ α :=
  match p.jobs[i]? with
  | none => p
  | some j =>
    let t := j.step (w i) p.state
    ⟨p.jobs.set i t.answer, t.state, p.log ++ t.effects.map (Prod.mk i)⟩

def follow (w : Nat → World σ) (p : Pool σ α) (schedule : List Nat) : Pool σ α :=
  schedule.foldl (pick w) p

def effectsOf (i : Nat) (log : List (Nat × Effect)) : List Effect :=
  log.filterMap fun e => if e.1 = i then some e.2 else none

def answers? (p : Pool σ α) : Option (List α) := p.jobs.mapM Job.answer?

/-- What can be seen of the jobs from outside: who does what is not marked. -/
def trace (p : Pool σ α) : Trace σ (List (Job α)) := ⟨p.jobs, p.state, p.log.map Prod.snd⟩

theorem follow_cons (w : Nat → World σ) (p : Pool σ α) (i : Nat) (schedule : List Nat) :
    p.follow w (i :: schedule) = (p.pick w i).follow w schedule := rfl

theorem follow_append (w : Nat → World σ) (p : Pool σ α) (a b : List Nat) :
    p.follow w (a ++ b) = (p.follow w a).follow w b :=
  List.foldl_append

section Pick
variable {w : Nat → World σ} {p : Pool σ α} {i : Nat}

theorem pick_of_none (h : p.jobs[i]? = none) : p.pick w i = p := by
  simp only [pick, h]

theorem pick_of_some {j : Job α} (h : p.jobs[i]? = some j) :
    p.pick w i = ⟨p.jobs.set i (j.step (w i) p.state).answer, (j.step (w i) p.state).state,
      p.log ++ (j.step (w i) p.state).effects.map (Prod.mk i)⟩ := by
  simp only [pick, h]

end Pick

theorem effectsOf_append (log : List (Nat × Effect)) (es : List Effect) (i k : Nat) :
    effectsOf i (log ++ es.map (Prod.mk k)) = effectsOf i log ++ if k = i then es else [] := by
  simp only [effectsOf, List.filterMap_append, List.filterMap_map, Function.comp_def]
  by_cases h : k = i
  · simp [h]
  · simp [h]

theorem answers?_eq_some_iff {p : Pool σ α} {answers : List α} :
    p.answers? = some answers ↔ p.jobs = answers.map .done := by
  rw [answers?]
  generalize p.jobs = js
  induction js generalizing answers with
  | nil => cases answers <;> simp
  | cons j js ih =>
    cases j with
    | done a => cases answers <;> simp [Job.answer?, Option.bind_eq_some_iff, ih, and_left_comm]
    | _ => cases answers <;> simp [Job.answer?]

section Attribution
variable (w : Nat → World σ) (p : Pool σ α)

theorem length_jobs_pick (i : Nat) : (p.pick w i).jobs.length = p.jobs.length := by
  cases h : p.jobs[i]? with
  | none => rw [pick_of_none h]
  | some j => rw [pick_of_some h, List.length_set]

theorem length_jobs_follow (schedule : List Nat) :
    (p.follow w schedule).jobs.length = p.jobs.length := by
  induction schedule generalizing p with
  | nil => rfl
  | cons i schedule ih => rw [follow_cons, ih, length_jobs_pick]

variable {w p}

theorem lt_of_mem_log_pick {i : Nat} (h : ∀ e ∈ p.log, e.1 < p.jobs.length) :
    ∀ e ∈ (p.pick w i).log, e.1 < p.jobs.length := by
  intro e he
  cases hi : p.jobs[i]? with
  | none =>
    rw [pick_of_none hi] at he
    exact h e he
  | some j =>
    rw [pick_of_some hi, List.mem_append] at he
    rcases he with he | he
    · exact h e he
    · obtain ⟨x, -, rfl⟩ := List.mem_map.1 he
      exact (List.getElem?_eq_some_iff.1 hi).1

/-- Whatever is done is done for one of the jobs. -/
theorem lt_of_mem_log_follow {schedule : List Nat} (h : ∀ e ∈ p.log, e.1 < p.jobs.length) :
    ∀ e ∈ (p.follow w schedule).log, e.1 < p.jobs.length := by
  induction schedule generalizing p with
  | nil => exact h
  | cons i schedule ih =>
    rw [follow_cons, ← length_jobs_pick w p i]
    apply ih
    rw [length_jobs_pick]
    exact lt_of_mem_log_pick h

end Attribution

/-- A job stands where a trace of it has come to. -/
structure Stands (part : Nat → σ → τ) (i : Nat) (t : Trace σ (Job α)) (p : Pool σ α) : Prop where
  job : p.jobs[i]? = some t.answer
  part_state : part i p.state = part i t.state
  effects : effectsOf i p.log = t.effects

theorem stands_start (part : Nat → σ → τ) (s : σ) {js : List (Job α)} {i : Nat} {j : Job α}
    (h : js[i]? = some j) : Stands part i ⟨j, s, []⟩ (start s js) :=
  ⟨h, rfl, rfl⟩

section Apart
variable {w : Nat → World σ} {part : Nat → σ → τ} {i : Nat} {t : Trace σ (Job α)} {p : Pool σ α}

theorem Stands.pick_self (hw : World.Apart w part) (h : Stands part i t p) :
    Stands part i (t.bind fun j s => j.step (w i) s) (p.pick w i) := by
  obtain ⟨hanswer, heffects, hpart⟩ := hw.step_congr h.part_state t.answer
  have hlt : i < p.jobs.length := (List.getElem?_eq_some_iff.1 h.job).1
  rw [pick_of_some h.job]
  refine ⟨?_, hpart, ?_⟩
  · rw [List.getElem?_set_self hlt, hanswer]
    rfl
  · rw [effectsOf_append, if_pos rfl, heffects]
    exact congrArg (· ++ _) h.effects

theorem Stands.pick_of_ne (hw : World.Apart w part) (h : Stands part i t p) {k : Nat} (hk : k ≠ i) :
    Stands part i t (p.pick w k) := by
  cases hjob : p.jobs[k]? with
  | none => rwa [pick_of_none hjob]
  | some j =>
    rw [pick_of_some hjob]
    refine ⟨?_, ?_, ?_⟩
    · rw [List.getElem?_set_ne hk]
      exact h.job
    · rw [hw.part_step hk]
      exact h.part_state
    · rw [effectsOf_append, if_neg hk, List.append_nil]
      exact h.effects

/-- Under every schedule a job goes as far as it goes alone in the steps that it is given. -/
theorem Stands.follow (hw : World.Apart w part) (h : Stands part i t p) (schedule : List Nat) :
    Stands part i (t.bind fun j s => j.walk (w i) (schedule.count i) s) (p.follow w schedule) := by
  -- along the schedule the trace grows by one step exactly where it picks this job
  induction schedule generalizing t p with
  | nil =>
    have ht : t.bind (fun j s => j.walk (w i) 0 s) = t := by simp [Trace.bind, Job.walk]
    rw [List.count_nil, ht]
    exact h
  | cons k schedule ih =>
    rw [follow_cons]
    by_cases hk : k = i
    · subst hk
      have hnext := ih (h.pick_self hw)
      rw [Trace.bind_assoc] at hnext
      rwa [List.count_cons_self]
    · rw [List.count_cons_of_ne hk]
      exact ih (h.pick_of_ne hw hk)

variable {s : σ} {js : List (Job α)} {schedule : List Nat}

theorem jobs_follow_of_length_le (hw : World.Apart w part)
    (h : ∀ i j, js[i]? = some j → j.length (w i) s ≤ schedule.count i) :
    ((start s js).follow w schedule).jobs =
      (js.mapIdx fun i j => (j.run (w i) s).answer).map .done := by
  apply List.ext_getElem?
  intro i
  rw [List.getElem?_map, List.getElem?_mapIdx]
  cases hj : js[i]? with
  | none =>
    rw [List.getElem?_eq_none_iff] at hj
    rw [Option.map_none, Option.map_none, List.getElem?_eq_none_iff, length_jobs_follow]
    exact hj
  | some j =>
    rw [((stands_start part s hj).follow hw schedule).job]
    simp only [Trace.bind, Job.walk_of_length_le (h i j hj), Option.map_some]

/-- All jobs come to their end exactly if each of them is given its steps. Then they answer in their
order, and each answers what it answers alone. -/
theorem answers?_follow_eq_some_iff (hw : World.Apart w part) {answers : List α} :
    ((start s js).follow w schedule).answers? = some answers ↔
      (∀ i j, js[i]? = some j → j.length (w i) s ≤ schedule.count i) ∧
        answers = js.mapIdx fun i j => (j.run (w i) s).answer := by
  rw [answers?_eq_some_iff]
  constructor
  · intro hanswers
    have hlength : ∀ i j, js[i]? = some j → j.length (w i) s ≤ schedule.count i := by
      intro i j hj
      have hjob := ((stands_start part s hj).follow hw schedule).job
      rw [hanswers, List.getElem?_map, Option.map_eq_some_iff] at hjob
      obtain ⟨a, -, ha⟩ := hjob
      exact Job.length_le_of_walk ha.symm
    rw [jobs_follow_of_length_le hw hlength] at hanswers
    exact ⟨hlength, ((List.map_inj_right fun _ _ h => Job.done.inj h).1 hanswers).symm⟩
  · rintro ⟨hlength, rfl⟩
    exact jobs_follow_of_length_le hw hlength

theorem effectsOf_follow_of_length_le (hw : World.Apart w part) {i : Nat} {j : Job α}
    (hj : js[i]? = some j) (h : j.length (w i) s ≤ schedule.count i) :
    effectsOf i ((start s js).follow w schedule).log = (j.run (w i) s).effects := by
  rw [((stands_start part s hj).follow hw schedule).effects]
  simp only [Trace.bind, Job.walk_of_length_le h, List.nil_append]

theorem effectsOf_follow_prefix (hw : World.Apart w part) (s : σ) {i : Nat} {j : Job α}
    (hj : js[i]? = some j) (schedule : List Nat) :
    effectsOf i ((start s js).follow w schedule).log <+: (j.run (w i) s).effects := by
  rw [((stands_start part s hj).follow hw schedule).effects]
  exact Job.effects_walk_prefix _ _ _ _

end Apart

section Rounds
variable {β : Type} {w : World σ}

theorem follow_replicate {p : Pool σ α} {i : Nat} {j : Job α} (h : p.jobs[i]? = some j) (n : Nat) :
    p.follow (fun _ => w) (List.replicate n i) =
      ⟨p.jobs.set i (j.walk w n p.state).answer, (j.walk w n p.state).state,
        p.log ++ (j.walk w n p.state).effects.map (Prod.mk i)⟩ := by
  have hlt : i < p.jobs.length := (List.getElem?_eq_some_iff.1 h).1
  induction n generalizing p j with
  | zero =>
    obtain ⟨-, rfl⟩ := List.getElem?_eq_some_iff.1 h
    simp [follow, Job.walk]
  | succ n ih =>
    rw [List.replicate_succ, follow_cons, pick_of_some h]
    have hset : (p.jobs.set i (j.step w p.state).answer)[i]? = some (j.step w p.state).answer :=
      List.getElem?_set_self hlt
    rw [ih hset (by simpa using hlt)]
    simp [Job.walk, Trace.bind]

/-- What is logged when jobs go on one after the other, the first of them as job `i`. -/
def logEach (f : σ → Job α → Trace σ β) (i : Nat) (s : σ) : List (Job α) → List (Nat × Effect)
  | [] => []
  | j :: js => (f s j).effects.map (Prod.mk i) ++ logEach f (i + 1) (f s j).state js

def logTogether (w : World σ) : (rounds : Nat) → σ → List (Job α) → List (Nat × Effect)
  | 0, s, js => logEach (Job.run w) 0 s js
  | rounds + 1, s, js =>
    let t := Job.each (Job.turn w) s js
    logEach (Job.turn w) 0 s js ++ logTogether w rounds t.state t.answer

theorem map_snd_logEach (f : σ → Job α → Trace σ β) (i : Nat) (s : σ) (js : List (Job α)) :
    (logEach f i s js).map Prod.snd = (Job.each f s js).effects := by
  induction js generalizing i s with
  | nil => rfl
  | cons j js ih => simp [logEach, Job.each, ih, Function.comp_def]

theorem map_snd_logTogether (w : World σ) (rounds : Nat) (s : σ) (js : List (Job α)) :
    (logTogether w rounds s js).map Prod.snd = (Job.runTogether w rounds s js).effects := by
  induction rounds generalizing s js with
  | zero => exact map_snd_logEach _ _ _ _
  | succ rounds ih => simp only [logTogether, Job.runTogether, List.map_append, map_snd_logEach, ih]

/-- Jobs that go on one after the other, each of them by some steps, follow a schedule. -/
theorem exists_schedule_each {f : σ → Job α → Trace σ β} {g : β → Job α}
    (hf : ∀ s (j : Job α), ∃ n,
      j.walk w n s = ⟨g (f s j).answer, (f s j).state, (f s j).effects⟩)
    (front : List (Job α)) {js : List (Job α)} {p : Pool σ α} (hp : p.jobs = front ++ js) :
    ∃ schedule, p.follow (fun _ => w) schedule =
      ⟨front ++ (Job.each f p.state js).answer.map g, (Job.each f p.state js).state,
        p.log ++ logEach f front.length p.state js⟩ := by
  induction js generalizing front p with
  | nil => exact ⟨[], by simp [follow, logEach, Job.each, ← hp]⟩
  | cons j js ih =>
    obtain ⟨n, hn⟩ := hf p.state j
    have hjob : p.jobs[front.length]? = some j := by simp [hp]
    have hfirst := follow_replicate (w := w) hjob n
    rw [hn] at hfirst
    obtain ⟨schedule, hrest⟩ := ih (front ++ [g (f p.state j).answer])
      (p := p.follow (fun _ => w) (List.replicate n front.length)) (by simp [hfirst, hp])
    refine ⟨List.replicate n front.length ++ schedule, ?_⟩
    rw [follow_append, hrest, hfirst]
    simp [Job.each, logEach]

theorem exists_schedule_logTogether (w : World σ) (rounds : Nat) (p : Pool σ α) :
    ∃ schedule, p.follow (fun _ => w) schedule =
      ⟨(Job.runTogether w rounds p.state p.jobs).answer.map .done,
        (Job.runTogether w rounds p.state p.jobs).state,
        p.log ++ logTogether w rounds p.state p.jobs⟩ := by
  induction rounds generalizing p with
  | zero =>
    exact exists_schedule_each (f := Job.run w) (g := Job.done)
      (fun s j => ⟨_, Job.walk_of_length_le (Nat.le_refl (j.length w s))⟩) [] rfl
  | succ rounds ih =>
    obtain ⟨first, hfirst⟩ := exists_schedule_each (f := Job.turn w) (g := id)
      (fun s j => j.exists_walk_turn w s) [] (p := p) rfl
    obtain ⟨rest, hrest⟩ := ih (p.follow (fun _ => w) first)
    refine ⟨first ++ rest, ?_⟩
    rw [follow_append, hrest, hfirst]
    simp [logTogether, Job.runTogether]

/-- Jobs that take turns and do not touch each other answer what they answer alone. -/
theorem answer_runTogether {τ : Type} {part : Nat → σ → τ} (hw : World.Apart (fun _ => w) part)
    (rounds : Nat) (s : σ) (js : List (Job α)) :
    (Job.runTogether w rounds s js).answer = js.map fun j => (j.run w s).answer := by
  obtain ⟨schedule, h⟩ := exists_schedule_logTogether w rounds (start s js)
  have hanswers := answers?_eq_some_iff.2 (congrArg Pool.jobs h)
  obtain ⟨-, heach⟩ := (answers?_follow_eq_some_iff hw).1 hanswers
  have hmap : (js.mapIdx fun _ j => (j.run w s).answer) = js.map fun j => (j.run w s).answer :=
    List.ext_getElem? fun i => by simp
  exact heach.trans hmap

theorem exists_schedule_runTogether (w : World σ) (rounds : Nat) (p : Pool σ α) :
    ∃ schedule, (p.follow (fun _ => w) schedule).trace =
      p.trace.bind fun js s => (Job.runTogether w rounds s js).ended := by
  obtain ⟨schedule, h⟩ := exists_schedule_logTogether w rounds p
  refine ⟨schedule, ?_⟩
  rw [h]
  simp only [trace, Trace.bind, Trace.ended, List.map_append, map_snd_logTogether]

end Rounds

end Pool
end Typeset
