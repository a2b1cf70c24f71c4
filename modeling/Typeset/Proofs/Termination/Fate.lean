import Typeset.Proofs.Termination.Sweep

/-!
# The fate of every process

A termination decides about each process by itself: whether it is listed, whether the signalled group
holds it, and how it answers. From this follow who outlives a termination and when one comes to its
end. Nothing is said here about an attempt that a refusal ends early.
-/

namespace Typeset

namespace ProcessRow

/-- The signal that ends a process which is there, if it is signalled by itself or in its group. -/
def fate (r : ProcessRow) (listed grouped : Bool) : Option Signal :=
  if (listed ∨ grouped) ∧ r.onTerm = .dies then some .term
  else if (grouped ∨ listed ∧ r.onTerm = .survives) ∧ r.onKill = .dies then some .kill
  else none

def settled (r : ProcessRow) (listed grouped : Bool) : ProcessRow :=
  if r.isAlive then { r with death := r.fate listed grouped } else r

/-- Whether the process refuses the first signal, or outlives it and refuses the second one. -/
def refuses (r : ProcessRow) : Bool :=
  r.isAlive && (r.onTerm = .denied || r.onTerm = .survives && r.onKill = .denied)

/-- The two rounds of signals lead to the fate. The second round leaves out who died in the first
one, and who was not there for it. -/
theorem settled_eq_struck (r : ProcessRow) (listed grouped : Bool) :
    r.settled listed grouped =
      let asked := if listed ∨ grouped then r.struck .term else r
      if (listed ∧ r.isAlive ∧ r.onTerm = .survives) ∨ grouped then asked.struck .kill else asked := by
  obtain ⟨pid, group, descendants, descendantsGone, groupAnswer, onTerm, onKill, death⟩ := r
  cases death with
  | some s => cases listed <;> cases grouped <;> simp [settled, struck, isAlive]
  | none =>
    cases listed <;> cases grouped <;> cases onTerm <;> cases onKill <;>
      simp [settled, fate, struck, isAlive, reaction]

theorem fate_isSome {r : ProcessRow} (hk : r.onKill = .dies) {listed grouped : Bool}
    (h : grouped = true ∨ listed = true ∧ (r.onTerm = .dies ∨ r.onTerm = .survives)) :
    (r.fate listed grouped).isSome = true := by
  unfold fate
  rcases h with h | ⟨h, ht | ht⟩ <;> split <;> simp_all

end ProcessRow

def ProcessTable.reaches (t : ProcessTable) (group : Option Pid) (r : ProcessRow) : Bool :=
  t.groupSignals = .permitted ∧ group = some r.group

namespace Termination

variable {t : ProcessTable} {pids : List Pid} {group : Option Pid} {limit : Number}

theorem row?_signalGroup? (t : ProcessTable) (s : Signal) (group : Option Pid) (p : Pid) :
    (signalGroup? t s group).row? p =
      (t.row? p).map fun r => if t.reaches group r then r.struck s else r := by
  cases group with
  | none => simp [signalGroup?, ProcessTable.reaches]
  | some g =>
    show (t.signalGroup s g).row? p = _
    by_cases h : t.groupSignals = .permitted
    · simp [ProcessTable.row?_signalGroup h, ProcessTable.reaches, h, eq_comm]
    · simp [ProcessTable.signalGroup_of_not_permitted h, ProcessTable.reaches, h]

theorem reaches_struck (t : ProcessTable) (group : Option Pid) (r : ProcessRow) (s : Signal) :
    t.reaches group (r.struck s) = t.reaches group r := by
  simp [ProcessTable.reaches]

theorem reaches_of_groupSignals_eq {u : ProcessTable} (h : u.groupSignals = t.groupSignals)
    (r : ProcessRow) : u.reaches group r = t.reaches group r := by
  simp [ProcessTable.reaches, h]

theorem groupSignals_signalGroup? (t : ProcessTable) (s : Signal) (group : Option Pid) :
    (signalGroup? t s group).groupSignals = t.groupSignals := by
  cases group with
  | none => rfl
  | some g => exact ProcessTable.groupSignals_signalGroup t s g

theorem groupSignals_asked (t : ProcessTable) (pids : List Pid) (group : Option Pid) :
    (asked t pids group).groupSignals = t.groupSignals := by
  rw [asked, groupSignals_signalGroup?, groupSignals_sweep]

section Asked
variable (h : (sweep .term t pids).denied = false)
include h

theorem row?_asked (p : Pid) :
    (asked t pids group).row? p = (t.row? p).map fun r =>
      if p ∈ pids ∨ t.reaches group r = true then r.struck .term else r := by
  rw [asked, row?_signalGroup?, row?_sweep h, Option.map_map]
  congr 1
  funext r
  have hr (u : ProcessRow) : (sweep .term t pids).table.reaches group u = t.reaches group u :=
    reaches_of_groupSignals_eq (groupSignals_sweep _ _ _) u
  by_cases hp : p ∈ pids <;> simp [hr, hp, reaches_struck]

/-- Only those outlive the first signal who took it and survived it. -/
theorem mem_outlived_iff (p : Pid) :
    p ∈ outlived t pids group ↔
      p ∈ pids ∧ ∃ r, t.row? p = some r ∧ r.isAlive = true ∧ r.onTerm = .survives := by
  rw [outlived, List.mem_filter, mem_taken_sweep_iff h, and_assoc]
  apply and_congr_right
  intro hp
  cases hr : t.row? p with
  | none => simp [ProcessTable.reception, hr]
  | some r =>
    have ha : (asked t pids group).row? p = some (r.struck .term) := by
      simp [row?_asked h, hr, hp]
    rw [ProcessTable.reception_of_row? hr, ProcessTable.isAlive_of_row? ha,
      ProcessRow.reception_eq_taken_iff, ProcessRow.isAlive_struck]
    simp only [Bool.and_eq_true, decide_eq_true_eq, Option.some.injEq, exists_eq_left']
    show _ ↔ _ ∧ r.reaction .term = .survives
    cases r.reaction .term <;> simp

/-- Who outlived the first signal is as it was. -/
theorem row?_asked_of_mem_outlived {p : Pid} (hp : p ∈ outlived t pids group) :
    (asked t pids group).row? p = t.row? p := by
  obtain ⟨-, r, hr, -, ht⟩ := (mem_outlived_iff h p).mp hp
  have hs : r.struck .term = r := ProcessRow.struck_of_ne (by simp [ProcessRow.reaction, ht])
  simp [row?_asked h, hr, hs]

end Asked

theorem denied_first_iff :
    (sweep .term t pids).denied = true ↔
      ∃ p ∈ pids, ∃ r, t.row? p = some r ∧ r.isAlive = true ∧ r.onTerm = .denied := by
  rw [denied_sweep_iff]
  refine exists_congr fun p => and_congr_right fun _ => ?_
  cases hr : t.row? p with
  | none => simp [ProcessTable.reception, hr]
  | some r =>
    simp [ProcessTable.reception, hr, ProcessRow.reception_eq_denied_iff, ProcessRow.reaction]

theorem denied_second_iff (h : (sweep .term t pids).denied = false) :
    (sweep .kill (asked t pids group) (outlived t pids group)).denied = true ↔
      ∃ p ∈ pids, ∃ r, t.row? p = some r ∧ r.isAlive = true ∧
        r.onTerm = .survives ∧ r.onKill = .denied := by
  rw [denied_sweep_iff]
  constructor
  · rintro ⟨p, hp, hd⟩
    obtain ⟨hm, r, hr, ha, ht⟩ := (mem_outlived_iff h p).mp hp
    rw [ProcessTable.reception_of_row? ((row?_asked_of_mem_outlived h hp).trans hr),
      ProcessRow.reception_eq_denied_iff] at hd
    exact ⟨p, hm, r, hr, ha, ht, hd.2⟩
  · rintro ⟨p, hm, r, hr, ha, ht, hk⟩
    have hp : p ∈ outlived t pids group := (mem_outlived_iff h p).mpr ⟨hm, r, hr, ha, ht⟩
    refine ⟨p, hp, ?_⟩
    rw [ProcessTable.reception_of_row? ((row?_asked_of_mem_outlived h hp).trans hr),
      ProcessRow.reception_eq_denied_iff]
    exact ⟨ha, hk⟩

theorem refuses_iff (r : ProcessRow) :
    r.refuses = true ↔ r.isAlive = true ∧
      (r.onTerm = .denied ∨ r.onTerm = .survives ∧ r.onKill = .denied) := by
  simp [ProcessRow.refuses]

theorem count_terminate (t : ProcessTable) (pids : List Pid) (limit : Number)
    (group : Option Pid) :
    (terminate t pids limit group).count =
      if (sweep .term t pids).denied ∨
        (sweep .kill (asked t pids group) (outlived t pids group)).denied then none
      else some (sweep .term t pids).taken.length := by
  unfold terminate
  cases h : (sweep .term t pids).denied with
  | true => simp [h]
  | false =>
    cases hk : (sweep .kill (asked t pids group) (outlived t pids group)).denied <;>
      simp [h, hk, escalate]

def Unrefused (t : ProcessTable) (pids : List Pid) : Prop :=
  ∀ p ∈ pids, ∀ r, t.row? p = some r → r.refuses = false

/-- A termination comes to its end unless a listed process refuses. -/
theorem count_terminate_isSome_iff :
    (terminate t pids limit group).count.isSome = true ↔ Unrefused t pids := by
  rw [count_terminate]
  constructor
  · intro hc p hp r hr
    cases hn : r.refuses with
    | false => rfl
    | true =>
      obtain ⟨ha, ht | ⟨ht, hk⟩⟩ := (refuses_iff r).mp hn
      · simp [denied_first_iff.mpr ⟨p, hp, r, hr, ha, ht⟩] at hc
      · cases h : (sweep .term t pids).denied with
        | true => simp [h] at hc
        | false => simp [(denied_second_iff h).mpr ⟨p, hp, r, hr, ha, ht, hk⟩] at hc
  · intro hn
    cases h : (sweep .term t pids).denied with
    | true =>
      obtain ⟨p, hp, r, hr, ha, ht⟩ := denied_first_iff.mp h
      have hr' := (refuses_iff r).mpr ⟨ha, .inl ht⟩
      simp [hn p hp r hr] at hr'
    | false =>
      cases hk : (sweep .kill (asked t pids group) (outlived t pids group)).denied with
      | true =>
        obtain ⟨p, hp, r, hr, ha, ht⟩ := (denied_second_iff h).mp hk
        have hr' := (refuses_iff r).mpr ⟨ha, .inr ht⟩
        simp [hn p hp r hr] at hr'
      | false => simp

theorem count_terminateAny_isSome_iff :
    (terminateAny t pids limit group).count.isSome = true ↔ Unrefused t pids := by
  by_cases hn : pids = []
  · subst hn
    simp [Unrefused]
  · rw [terminateAny, if_neg hn]
    exact count_terminate_isSome_iff

theorem sweeps_not_denied (h : (terminate t pids limit group).count.isSome = true) :
    (sweep .term t pids).denied = false ∧
      (sweep .kill (asked t pids group) (outlived t pids group)).denied = false := by
  rw [count_terminate] at h
  split at h
  · simp at h
  · simp_all

theorem table_terminate (h : (terminate t pids limit group).count.isSome = true) :
    (terminate t pids limit group).table =
      signalGroup? (sweep .kill (asked t pids group) (outlived t pids group)).table .kill group := by
  obtain ⟨h1, h2⟩ := sweeps_not_denied h
  simp [terminate, escalate, h1, h2]

/-- A termination that comes to its end leaves every process to its fate. -/
theorem row?_terminate (h : (terminate t pids limit group).count.isSome = true) (p : Pid) :
    (terminate t pids limit group).table.row? p =
      (t.row? p).map fun r => r.settled (p ∈ pids) (t.reaches group r) := by
  obtain ⟨h1, h2⟩ := sweeps_not_denied h
  rw [table_terminate h, row?_signalGroup?, row?_sweep h2, row?_asked h1, Option.map_map,
    Option.map_map]
  cases hr : t.row? p with
  | none => rfl
  | some r =>
    have ho : p ∈ outlived t pids group ↔
        p ∈ pids ∧ r.isAlive = true ∧ r.onTerm = .survives := by
      simp [mem_outlived_iff h1, hr]
    have hg (u : ProcessRow) :
        (sweep .kill (asked t pids group) (outlived t pids group)).table.reaches group u =
          t.reaches group u :=
      reaches_of_groupSignals_eq
        ((groupSignals_sweep _ _ _).trans (groupSignals_asked t pids group)) u
    -- both sides are now the same two rounds, written for one process
    simp only [Option.map_some, Function.comp_apply, hg, ho, Option.some.injEq,
      ProcessRow.settled_eq_struck]
    cases hl : t.reaches group r <;> by_cases hp : p ∈ pids <;>
      by_cases hs : r.isAlive = true ∧ r.onTerm = .survives <;>
      simp [hl, hp, hs, reaches_struck]

end Termination
end Typeset
