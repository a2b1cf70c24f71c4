import Typeset.Proofs.Runner.Interruption

/-!
# Runners that are used again

A runner holds a child while a run goes on, and whatever ends the run takes the child away. Nothing
else about a runner ever changes, so it answers each request as a new runner would.
-/

namespace Typeset

namespace Run

/-- What a run leaves behind of its runner: the child stays only if the run still goes on. While it goes
on, the runner shows the process of that child. -/
structure Leaves (run : Run) (r : Runner) : Prop where
  runner_eq : run.runner = { r with child := if run.conclusion = .waiting then r.child else none }
  pid_eq : run.pid = r.pid

end Run

namespace Runner

section Leaves
variable (r : Runner) (c : Child) (t : ProcessTable) (reading : Reading) (l : Listeners)
  (i : Option Interruption)

theorem leaves_abandon (cause : Raised) : (r.abandon c t reading cause).Leaves r := by
  simp only [abandon]
  split
  · exact ⟨by simp, rfl⟩
  · split
    · exact ⟨by simp, rfl⟩
    · exact ⟨by simp, rfl⟩

theorem leaves_conclude : (r.conclude c t reading).Leaves r := by
  simp only [conclude]
  split
  · exact leaves_abandon r c t _ _
  · exact ⟨by simp, rfl⟩

theorem leaves_interrupted : (r.interrupted c t reading i).Leaves r := by
  have hsilent : Run.Leaves ⟨r, t, [], reading, r.pid, none, .waiting⟩ r := ⟨by simp, rfl⟩
  match i with
  | none => exact hsilent
  | some (.cancelAfter _) => exact hsilent
  | some .cancel => exact leaves_abandon r c t reading .cancelled
  | some .terminate =>
    simp only [interrupted]
    split
    · exact ⟨by simp, rfl⟩
    · obtain ⟨hrunner, hpid⟩ := leaves_conclude r c (r.terminate t).table reading
      exact ⟨hrunner, hpid⟩

theorem leaves_settle : (r.settle c t reading i).Leaves r := by
  unfold settle
  split
  · exact leaves_conclude r c t reading
  · split
    · exact leaves_abandon r c t reading _
    · exact leaves_interrupted r c t reading i

theorem leaves_supervise : (r.supervise c t l i).Leaves { r with child := some c } := by
  unfold supervise
  split
  · exact leaves_abandon _ c t _ _
  · exact leaves_settle _ c t _ i

end Leaves

inductive Request
  | pid
  | terminate
  | mergedEnvironment (top : Variables)
  | run (p : Plan) (launch : Launch) (listeners : Listeners) (interruption : Option Interruption)
  /-- Nothing is asked, while the processes change by themselves. -/
  | elapse (t : ProcessTable)

inductive Answer
  | pid (pid : Option Pid)
  | terminated (o : Termination.Outcome)
  | environment (v : Variables)
  | ran (s : Spawn) (run : Run)
  | elapsed (t : ProcessTable)

def answer (r : Runner) (t : ProcessTable) : Request → Answer
  | .pid => .pid r.pid
  | .terminate => .terminated (r.terminate t)
  | .mergedEnvironment top => .environment (r.mergedEnvironment top)
  | .run p launch l i => .ran (r.spawn p) (r.run p launch t l i)
  | .elapse u => .elapsed u

namespace Answer

def runner (r : Runner) : Answer → Runner
  | .ran _ run => run.runner
  | _ => r

def table (t : ProcessTable) : Answer → ProcessTable
  | .terminated o => o.table
  | .ran _ run => run.table
  | .elapsed u => u
  | _ => t

/-- Whether the answer is a run that still goes on. -/
def goesOn : Answer → Bool
  | .ran _ run => run.conclusion = .waiting
  | _ => false

end Answer

/-- A request with its answer, and with the processes at that time. -/
structure Exchange where
  table : ProcessTable
  request : Request
  answer : Answer

/-- The answers of one runner to requests that follow each other. Nothing follows a run that goes on
for ever. -/
def exchanges (r : Runner) (t : ProcessTable) : List Request → List Exchange
  | [] => []
  | q :: rest =>
    let a := r.answer t q
    ⟨t, q, a⟩ :: if a.goesOn then [] else exchanges (a.runner r) (a.table t) rest

variable {r : Runner} {t : ProcessTable} {e : Variables} {n : Number}

theorem run_of_not_started (p : Plan) {launch : Launch} (h : ∀ c, launch ≠ .started c)
    (l : Listeners) (i : Option Interruption) :
    (r.run p launch t l i).runner = r ∧ (r.run p launch t l i).pid = r.pid ∧
      (r.run p launch t l i).conclusion ≠ .waiting := by
  cases launch with
  | refused e => exact ⟨rfl, rfl, by rintro ⟨⟩⟩
  | broken f => exact ⟨rfl, rfl, by rintro ⟨⟩⟩
  | started c => exact absurd rfl (h c)

/-- A new runner is new again when an answer has come to its end. -/
theorem runner_answer_ofEnvironment {q : Request}
    (h : ((ofEnvironment e n).answer t q).goesOn = false) :
    ((ofEnvironment e n).answer t q).runner (ofEnvironment e n) = ofEnvironment e n := by
  cases q with
  | run p launch l i =>
    have hends : ((ofEnvironment e n).run p launch t l i).conclusion ≠ .waiting := by
      simpa [answer, Answer.goesOn] using h
    cases launch with
    | started c =>
      have hleaves : ((ofEnvironment e n).run p (.started c) t l i).Leaves
          { ofEnvironment e n with child := some c } := leaves_supervise _ c t l i
      show ((ofEnvironment e n).run p (.started c) t l i).runner = ofEnvironment e n
      rw [hleaves.runner_eq, if_neg hends]
      rfl
    | refused _ => rfl
    | broken _ => rfl
  | pid => rfl
  | terminate => rfl
  | mergedEnvironment top => rfl
  | elapse u => rfl

theorem answer_exchanges_ofEnvironment {requests : List Request} {x : Exchange}
    (hx : x ∈ (ofEnvironment e n).exchanges t requests) :
    x.answer = (ofEnvironment e n).answer x.table x.request := by
  induction requests generalizing t with
  | nil => cases hx
  | cons q rest ih =>
    rw [exchanges] at hx
    rcases List.mem_cons.1 hx with rfl | hx
    · rfl
    · split at hx
      · cases hx
      · rename_i hends
        rw [runner_answer_ofEnvironment (by simpa using hends)] at hx
        exact ih hx

theorem map_request_exchanges (r : Runner) (t : ProcessTable) (requests : List Request) :
    (r.exchanges t requests).map (·.request) <+: requests ∧
      ((∀ x ∈ r.exchanges t requests, x.answer.goesOn = false) →
        (r.exchanges t requests).map (·.request) = requests) := by
  induction requests generalizing r t with
  | nil => exact ⟨List.prefix_rfl, fun _ => rfl⟩
  | cons q rest ih =>
    rw [exchanges]
    split
    · rename_i hon
      refine ⟨List.prefix_cons_inj q |>.2 (List.nil_prefix), fun h => ?_⟩
      simp [hon] at h
    · obtain ⟨hbegin, hall⟩ := ih ((r.answer t q).runner r) ((r.answer t q).table t)
      refine ⟨(List.prefix_cons_inj q).2 hbegin, fun h => ?_⟩
      rw [List.map_cons, hall fun x hx => h x (List.mem_cons_of_mem _ hx)]

/-- An exchange that shows nothing of those before it. It is the one that a new runner would have had with
the same processes; there is no child to be seen or to be terminated, and a run starts its child with
no variables but those of the runner and of its own plan. While a run goes on, its child is the one
that is seen. -/
structure Exchange.IsFresh (x : Exchange) (e : Variables) (n : Number) : Prop where
  answer_eq : x.answer = (ofEnvironment e n).answer x.table x.request
  of_pid : x.request = .pid → x.answer = .pid none
  of_terminate : x.request = .terminate → x.answer = .terminated ⟨x.table, [], some 0⟩
  of_mergedEnvironment : ∀ top, x.request = .mergedEnvironment top →
    x.answer = .environment (e.overlay top)
  of_run : ∀ p launch l i, x.request = .run p launch l i → ∃ run,
    x.answer = .ran ⟨p.command, p.workingDirectory, e.overlay p.environment⟩ run ∧
    (∀ c, launch = .started c → run.pid = some c.pid ∧
      run.runner.pid = if run.conclusion = .waiting then some c.pid else none) ∧
    ((∀ c, launch ≠ .started c) → run.pid = none ∧ run.runner.pid = none)

theorem isFresh_of_answer_eq {x : Exchange}
    (h : x.answer = (ofEnvironment e n).answer x.table x.request) : x.IsFresh e n := by
  refine ⟨h, fun hq => ?_, fun hq => ?_, fun top hq => ?_, fun p launch l i hq => ?_⟩
  · rw [h, hq]
    rfl
  · rw [h, hq]
    rfl
  · rw [h, hq]
    rfl
  · rw [hq] at h
    refine ⟨_, h, ?_, fun hnot => ?_⟩
    · rintro c rfl
      have hleaves : ((ofEnvironment e n).run p (.started c) x.table l i).Leaves
          { ofEnvironment e n with child := some c } := leaves_supervise _ c x.table l i
      refine ⟨hleaves.pid_eq, ?_⟩
      rw [hleaves.runner_eq]
      split <;> rfl
    · obtain ⟨hrunner, hpid, -⟩ := run_of_not_started (r := ofEnvironment e n) (t := x.table)
        p hnot l i
      exact ⟨hpid, by rw [hrunner]; rfl⟩

/-- A runner carries nothing from one run to the next. Whatever is asked of it, one thing after the
other, and however its runs end, each answer is that of a new runner. Only a run that goes on for ever
leaves the requests behind it without an answer. -/
theorem nothing_carried (e : Variables) (n : Number) (t : ProcessTable) (requests : List Request) :
    (∀ x ∈ (ofEnvironment e n).exchanges t requests, x.IsFresh e n) ∧
    ((ofEnvironment e n).exchanges t requests).map (·.request) <+: requests ∧
    ((∀ x ∈ (ofEnvironment e n).exchanges t requests, x.answer.goesOn = false) →
      ((ofEnvironment e n).exchanges t requests).map (·.request) = requests) :=
  ⟨fun _ hx => isFresh_of_answer_eq (answer_exchanges_ofEnvironment hx),
    map_request_exchanges _ t requests⟩

/-- A run that was cancelled, with a variable of its own. -/
def cancelledRun : Request :=
  .run { draft with environment := ⟨[("TEXINDY", "false")]⟩ } (.started leader) .both
    (some (.cancelAfter 0))

def refusedRun : Request := .run draft (.refused (.plain "no child")) .both none

/-- The variable is not there any more when the next child is to be started. -/
theorem nothing_carried_leader :
    ∃ x ∈ (ofEnvironment ⟨[("LANG", "C")]⟩ (.int 2)).exchanges Termination.family
        [cancelledRun, .terminate, refusedRun],
      ∃ run, x.request = refusedRun ∧
        x.answer = .ran ⟨draft.command, draft.workingDirectory, ⟨[("LANG", "C")]⟩⟩ run := by
  obtain ⟨hfresh, -, hall⟩ := nothing_carried ⟨[("LANG", "C")]⟩ (.int 2) Termination.family
    [cancelledRun, .terminate, refusedRun]
  have hends := hall (by decide)
  have hlast : refusedRun ∈ ((ofEnvironment ⟨[("LANG", "C")]⟩ (.int 2)).exchanges
      Termination.family [cancelledRun, .terminate, refusedRun]).map (·.request) := by
    rw [hends]
    simp
  obtain ⟨x, hx, hq⟩ := List.mem_map.1 hlast
  obtain ⟨run, hrun, -, -⟩ := (hfresh x hx).of_run _ _ _ _ hq
  exact ⟨x, hx, run, hq, hrun⟩

end Runner
end Typeset
