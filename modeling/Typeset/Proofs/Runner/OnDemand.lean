import Typeset.Proofs.Runner.Delivery
import Typeset.Proofs.Runner.Reuse
import Typeset.Proofs.Termination.Escalation
import Typeset.Proofs.Termination.Frame

/-!
# Termination on demand

While a run waits for a child that hangs, the child can be terminated on demand. If the child leads its
group and nobody else holds its streams, this leaves nobody behind who keeps them open. So the run goes
on as if the child had ended by itself, and its status tells which signal it took.
-/

namespace Typeset

namespace Termination

variable {s : Signal} {t : ProcessTable} {pids : List Pid} {group : Option Pid} {limit : Number}

/-- Of a group whose members are all known and end with a kill, a termination leaves nobody. It does not
matter who is listed more than once in the table, or not at all. -/
theorem hasGroup_terminateGroup {g : Pid} (hg : t.groupSignals = .permitted) (hc : t.Compliant)
    (hk : ∀ m ∈ t.rows, m.group = g → m.groupAnswer = .told ∧ m.onKill = .dies) (limit : Number) :
    (terminateGroup t g limit).table.hasGroup g = false := by
  rw [ProcessTable.hasGroup, List.any_eq_false]
  by_cases hn : t.members g = []
  · intro m hm ha
    simp only [terminateGroup, hn, terminateAny_nil, Bool.and_eq_true, decide_eq_true_eq] at hm ha
    have hmem := mem_members hg hm ha.1 ⟨ha.2, (hk m hm ha.2).1⟩
    simp [hn] at hmem
  · have h : (terminate t (t.members g) limit (some g)).count.isSome = true :=
      count_terminate_isSome_iff.mpr (unrefused_of_compliant hc _)
    have hall : ∀ g', some g = some g' → True ∧ ∀ p, t.BelongsTo p g' → True :=
      fun _ _ => ⟨trivial, fun _ _ => trivial⟩
    have hasked : t.ChangedWithin (fun _ => True) (asked t (t.members g) (some g)) :=
      changedWithin_asked hall fun _ _ => trivial
    have hu := hasked.trans
      (changedWithin_sweep (fun p (_ : p ∈ outlived t (t.members g) (some g)) => trivial) .kill _)
    rw [terminateGroup, terminateAny, if_neg hn, table_terminate h]
    generalize (sweep .kill (asked t (t.members g) (some g))
      (outlived t (t.members g) (some g))).table = u at hu
    have hp : u.groupSignals = .permitted := hu.groupSignals.trans hg
    -- the last thing that happens is the kill of the group, and it strikes every row of the group
    intro m hm ha
    simp only [signalGroup?, Option.elim_some, ProcessTable.signalGroup, if_pos hp, List.mem_map,
      Bool.and_eq_true, decide_eq_true_eq] at hm ha
    obtain ⟨b, hb, rfl⟩ := hm
    obtain ⟨a, ham, hab⟩ := ProcessTable.ChangedWithin.mem_rows hu.rows hb
    by_cases hbg : b.group = g
    · have hkill : b.reaction .kill = .dies := by
        have hak := (hk a ham (hab.group_eq.symm.trans hbg)).2
        rcases hab with rfl | ⟨-, s, rfl⟩
        · exact hak
        · rw [ProcessRow.reaction_struck]
          exact hak
      rw [if_pos hbg, ProcessRow.isAlive_struck, hkill] at ha
      simp at ha
    · rw [if_neg hbg] at ha
      exact hbg ha.2

end Termination

namespace Child
variable {c : Child} {t : ProcessTable}

/-- A child that leads its group, in which everybody is known to be a member and ends with a kill. -/
structure Governs (c : Child) (t : ProcessTable) : Prop where
  group_eq : ∀ m, t.row? c.pid = some m → m.group = c.pid
  groupAnswer_eq : ∀ m ∈ t.rows, m.group = c.pid → m.groupAnswer = .told
  onKill_eq : ∀ m ∈ t.rows, m.group = c.pid → m.onKill = .dies

theorem Governs.leads (h : c.Governs t) : c.Leads t :=
  ⟨h.group_eq, fun m hm => h.onKill_eq m (ProcessTable.mem_of_row? hm) (h.group_eq m hm)⟩

def listed (c : Child) (t : ProcessTable) : List Pid :=
  if c.exited then t.members c.pid else Termination.collected t c.pid true

section Stopped
variable (hg : t.groupSignals = .permitted) (hc : t.Compliant)
include hg hc

theorem isOpen_stop (hl : c.Governs t) (limit : Number) :
    c.isOpen (c.stop t limit).table =
      (c.hangs && c.holders.any (c.stop t limit).table.isAlive) := by
  cases hh : c.hangs with
  | false => simp [isOpen, hh]
  | true =>
    cases he : c.exited with
    | true =>
      have hnone : (c.stop t limit).table.hasGroup c.pid = false := by
        rw [stop, he, if_pos rfl]
        exact Termination.hasGroup_terminateGroup hg hc
          (fun m hm hmg => ⟨hl.groupAnswer_eq m hm hmg, hl.onKill_eq m hm hmg⟩) limit
      simp [isOpen, hh, he, hnone]
    | false =>
      have hrun := Runner.isRunning_stop hg hc hl.leads limit
      have hdead : (c.stop t limit).table.isAlive c.pid = false := by
        simpa [isRunning, hh, he] using hrun
      simp [isOpen, hh, he, hdead]

end Stopped
end Child

namespace Runner
variable {r : Runner} {c : Child} {t : ProcessTable} {l : Listeners}

section Waiting
variable (ho : c.isOpen t = true)
  (hw : ((Reading.ofListeners l).receiveAll c.arrivals).raised = none)
include ho hw

theorem supervise_terminate_of_isOpen (r : Runner)
    (hopen : c.isOpen (c.stop t r.patience).table = true) :
    (r.supervise c t l (some .terminate)).conclusion = .waiting := by
  simp [supervise, cutAfter?, settle, ho, hw, interrupted, terminate, hopen]

/-- Once the child is stopped and its streams are closed, what is left of the run is its usual end. -/
theorem supervise_terminate_of_not_isOpen (r : Runner)
    (hclosed : c.isOpen (c.stop t r.patience).table = false) :
    (r.supervise c t l (some .terminate)).conclusion =
        ({ r with child := some c }.conclude c (c.stop t r.patience).table
          ((Reading.ofListeners l).receiveAll c.arrivals)).conclusion ∧
      (r.supervise c t l (some .terminate)).reading =
        ({ r with child := some c }.conclude c (c.stop t r.patience).table
          ((Reading.ofListeners l).receiveAll c.arrivals)).reading ∧
      (r.supervise c t l (some .terminate)).signalled = (c.stop t r.patience).count := by
  simp [supervise, cutAfter?, settle, ho, hw, interrupted, terminate, hclosed]

end Waiting

theorem conclude_of_not_raised {reading : Reading} (h : reading.finishBoth.raised = none) :
    (r.conclude c t reading).conclusion = .exited (c.statusIn t) ∧
      (r.conclude c t reading).reading = reading.finishBoth := by
  simp [conclude, h]

theorem raised_of_conclude_exited {reading : Reading} {status : Int}
    (h : (r.conclude c t reading).conclusion = .exited status) :
    reading.finishBoth.raised = none := by
  cases hr : reading.finishBoth.raised with
  | none => rfl
  | some p =>
    simp only [conclude, hr] at h
    exact absurd h (conclusion_abandon_ne_exited _ _ _ _ _ _)

section OnDemand
variable (r : Runner) (p : Plan) (hg : t.groupSignals = .permitted) (hc : t.Compliant)
  (hl : c.Governs t) (ho : c.isOpen t = true)
include hg hc hl ho

/-- A run that waits has a status after the demand if and only if nobody is left who holds the streams,
and no listener objects to what their end brings to light. -/
theorem returns_on_demand_iff
    (hw : ((Reading.ofListeners l).receiveAll c.arrivals).raised = none) :
    (∃ status, (r.run p (.started c) t l (some .terminate)).conclusion = .exited status) ↔
      c.holders.any (c.stop t r.patience).table.isAlive = false ∧
        ∀ ch e, ¬l.FailIn (c.readOut l) ch e := by
  have hheeds := ((Reading.heeds_ofListeners l).receiveAll c.arrivals).finishBoth
  have hhangs : c.hangs = true := by
    rw [Child.isOpen, Bool.and_eq_true] at ho
    exact ho.1
  have hiff := Child.isOpen_stop hg hc hl r.patience
  rw [hhangs, Bool.true_and] at hiff
  constructor
  · rintro ⟨status, hcon⟩
    have hclosed : c.isOpen (c.stop t r.patience).table = false := by
      rw [← Bool.not_eq_true]
      intro hopen
      rw [run, supervise_terminate_of_isOpen ho hw r hopen] at hcon
      cases hcon
    rw [run, (supervise_terminate_of_not_isOpen ho hw r hclosed).1] at hcon
    refine ⟨hiff.symm.trans hclosed, fun ch e hfail => ?_⟩
    have hraised := (hheeds.relay_raised_iff ch e).2 hfail
    have hfailed := hheeds.failed ch (Relay.failed_of_raised hraised)
    rw [Reading.failed, raised_of_conclude_exited hcon] at hfailed
    cases hfailed
  · rintro ⟨hnobody, hnone⟩
    have hraised := Reading.raised_eq_none (hheeds.failed_eq_false hnone)
    rw [run, (supervise_terminate_of_not_isOpen ho hw r (hiff.trans hnobody)).1]
    exact ⟨_, (conclude_of_not_raised hraised).1⟩

end OnDemand

def sharing : Child := { leader with holders := [2] }

end Runner
end Typeset
