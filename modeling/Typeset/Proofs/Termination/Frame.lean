import Mathlib.Data.List.Forall2
import Typeset.Proofs.Termination.Sweep

/-!
# What a termination leaves alone

A change within some processes leaves every other row exactly as it was, and of the rows it may touch
nothing but whether the process is there. Sweeps and group signals are such changes, wherever they
stop, so terminations are; a refusal that ends one early makes no exception.
-/

namespace Typeset

namespace ProcessRow
variable {touched : Pid → Prop} {a b c : ProcessRow}

/-- A row stays as it is, unless its process is touched and a signal ends it. -/
def ChangedWithin (touched : Pid → Prop) (a b : ProcessRow) : Prop :=
  b = a ∨ touched a.pid ∧ ∃ s, b = a.struck s

/-- Of two signals only one can end the process. -/
theorem struck_struck_eq (r : ProcessRow) (s u : Signal) :
    ∃ w, (r.struck s).struck u = r.struck w := by
  by_cases h : r.isAlive = true ∧ r.reaction s = .dies
  · exact ⟨s, struck_of_dead (by simp [isAlive_struck, h]) u⟩
  · have hs : r.struck s = r := if_neg h
    exact ⟨u, by rw [hs]⟩

theorem ChangedWithin.trans (hab : a.ChangedWithin touched b) (hbc : b.ChangedWithin touched c) :
    a.ChangedWithin touched c := by
  rcases hab with rfl | ⟨ha, s, rfl⟩
  · exact hbc
  · rcases hbc with rfl | ⟨_, u, rfl⟩
    · exact .inr ⟨ha, s, rfl⟩
    · exact .inr ⟨ha, struck_struck_eq a s u⟩

theorem ChangedWithin.pid_eq (h : a.ChangedWithin touched b) : b.pid = a.pid := by
  rcases h with rfl | ⟨_, s, rfl⟩ <;> simp

theorem ChangedWithin.group_eq (h : a.ChangedWithin touched b) : b.group = a.group := by
  rcases h with rfl | ⟨_, s, rfl⟩ <;> simp

end ProcessRow

namespace ProcessTable

def BelongsTo (t : ProcessTable) (p group : Pid) : Prop :=
  ∃ r ∈ t.rows, r.pid = p ∧ r.group = group

/-- Row by row, a table differs from another one only in touched processes that a signal ended. -/
structure ChangedWithin (touched : Pid → Prop) (t u : ProcessTable) : Prop where
  groupSignals : u.groupSignals = t.groupSignals
  rows : List.Forall₂ (ProcessRow.ChangedWithin touched) t.rows u.rows

namespace ChangedWithin
variable {touched : Pid → Prop} {t u v : ProcessTable}

theorem refl (touched : Pid → Prop) (t : ProcessTable) : t.ChangedWithin touched t :=
  ⟨rfl, List.forall₂_same.mpr fun _ _ => .inl rfl⟩

theorem rows_trans {as bs cs : List ProcessRow}
    (hab : List.Forall₂ (ProcessRow.ChangedWithin touched) as bs)
    (hbc : List.Forall₂ (ProcessRow.ChangedWithin touched) bs cs) :
    List.Forall₂ (ProcessRow.ChangedWithin touched) as cs := by
  induction hab generalizing cs with
  | nil => exact hbc
  | cons hab _ ih =>
    cases hbc with
    | cons hbc htail => exact .cons (hab.trans hbc) (ih htail)

theorem trans (htu : t.ChangedWithin touched u) (huv : u.ChangedWithin touched v) :
    t.ChangedWithin touched v :=
  ⟨huv.groupSignals.trans htu.groupSignals, rows_trans htu.rows huv.rows⟩

theorem mem_rows {as bs : List ProcessRow} {b : ProcessRow}
    (h : List.Forall₂ (ProcessRow.ChangedWithin touched) as bs) (hb : b ∈ bs) :
    ∃ a ∈ as, a.ChangedWithin touched b := by
  induction h with
  | nil => exact absurd hb List.not_mem_nil
  | cons hab _ ih =>
    rcases List.mem_cons.mp hb with rfl | hb
    · exact ⟨_, List.mem_cons_self, hab⟩
    · obtain ⟨a, ha, h⟩ := ih hb
      exact ⟨a, List.mem_cons_of_mem _ ha, h⟩

theorem belongsTo (h : t.ChangedWithin touched u) {p group : Pid} (hu : u.BelongsTo p group) :
    t.BelongsTo p group := by
  obtain ⟨b, hb, hp, hg⟩ := hu
  obtain ⟨a, ha, hab⟩ := mem_rows h.rows hb
  exact ⟨a, ha, hab.pid_eq.symm.trans hp, hab.group_eq.symm.trans hg⟩

theorem signal {p : Pid} (hp : touched p) (t : ProcessTable) (s : Signal) :
    t.ChangedWithin touched (t.signal s p) := by
  refine ⟨rfl, List.forall₂_map_right_iff.mpr (List.forall₂_same.mpr fun r _ => ?_)⟩
  split
  · rename_i h
    exact .inr ⟨h ▸ hp, s, rfl⟩
  · exact .inl rfl

theorem signalGroup {group : Pid} (h : ∀ p, t.BelongsTo p group → touched p) (s : Signal) :
    t.ChangedWithin touched (t.signalGroup s group) := by
  unfold ProcessTable.signalGroup
  split
  · refine ⟨rfl, List.forall₂_map_right_iff.mpr (List.forall₂_same.mpr fun r hr => ?_)⟩
    split
    · rename_i hg
      exact .inr ⟨h r.pid ⟨r, hr, rfl, hg⟩, s, rfl⟩
    · exact .inl rfl
  · exact refl touched t

end ChangedWithin

theorem belongsTo_of_mem_members {t : ProcessTable} {p group : Pid} (h : p ∈ t.members group) :
    t.BelongsTo p group := by
  obtain ⟨-, r, hr, hp, -, -, hg⟩ := mem_members_iff.mp h
  exact ⟨r, hr, hp, hg⟩

end ProcessTable

namespace Termination

variable {t : ProcessTable} {pids : List Pid} {group : Option Pid} {limit : Number}
variable {touched groups : Pid → Prop}

/-- Whether an event is meant for the given processes or groups. A wait is meant for nobody. -/
def Event.MeantFor (touched groups : Pid → Prop) : Event → Prop
  | .signal _ p => touched p
  | .groupSignal _ g => groups g
  | .wait _ _ => True

/-- An outcome that changes only touched processes, and whose signals are all meant for these or for
the given groups. -/
structure Outcome.KeepsTo (o : Outcome) (t : ProcessTable) (touched groups : Pid → Prop) : Prop where
  table : t.ChangedWithin touched o.table
  events : ∀ e ∈ o.events, e.MeantFor touched groups

theorem changedWithin_sweep (h : ∀ p ∈ pids, touched p) (s : Signal) (t : ProcessTable) :
    t.ChangedWithin touched (sweep s t pids).table := by
  induction pids generalizing t with
  | nil => exact .refl touched t
  | cons p pids ih =>
    have hp := h p List.mem_cons_self
    have hps : ∀ q ∈ pids, touched q := fun q hq => h q (List.mem_cons_of_mem p hq)
    rw [sweep]
    cases t.reception s p with
    | taken => exact (ProcessTable.ChangedWithin.signal hp t s).trans (ih hps _)
    | noProcess => exact ih hps t
    | denied => exact .refl touched t

theorem meantFor_sweep (h : ∀ p ∈ pids, touched p) (s : Signal) (t : ProcessTable) :
    ∀ e ∈ (sweep s t pids).events, e.MeantFor touched groups := by
  induction pids generalizing t with
  | nil => exact fun _ he => absurd he List.not_mem_nil
  | cons p pids ih =>
    have hp : (Event.signal s p).MeantFor touched groups := h p List.mem_cons_self
    have hps : ∀ q ∈ pids, touched q := fun q hq => h q (List.mem_cons_of_mem p hq)
    rw [sweep]
    cases t.reception s p with
    | taken => exact List.forall_mem_cons.mpr ⟨hp, ih hps _⟩
    | noProcess => exact List.forall_mem_cons.mpr ⟨hp, ih hps t⟩
    | denied => exact List.forall_mem_singleton.mpr hp

theorem subset_outlived (t : ProcessTable) (pids : List Pid) (group : Option Pid) :
    ∀ p ∈ outlived t pids group, p ∈ pids := fun _ hp =>
  (sublist_taken_sweep .term t pids).subset (List.mem_of_mem_filter hp)

section Group
variable (hg : ∀ g, group = some g → groups g ∧ ∀ p, t.BelongsTo p g → touched p)
include hg

theorem changedWithin_signalGroup? {u : ProcessTable} (hu : t.ChangedWithin touched u)
    (s : Signal) : t.ChangedWithin touched (signalGroup? u s group) := by
  cases group with
  | none => exact hu
  | some g => exact hu.trans (.signalGroup (fun p hb => (hg g rfl).2 p (hu.belongsTo hb)) s)

omit hg in
theorem meantFor_groupEvents (hg : ∀ g, group = some g → groups g) (s : Signal) :
    ∀ e ∈ groupEvents s group, e.MeantFor touched groups := by
  cases group with
  | none => exact fun _ he => absurd he List.not_mem_nil
  | some g => exact List.forall_mem_singleton.mpr (hg g rfl)

variable (hp : ∀ p ∈ pids, touched p)
include hp

theorem changedWithin_asked : t.ChangedWithin touched (asked t pids group) :=
  changedWithin_signalGroup? hg (changedWithin_sweep hp .term t) .term

theorem keepsTo_escalate {u : ProcessTable} (hu : t.ChangedWithin touched u) (limit : Number)
    (count : Nat) : (escalate u pids limit group count).KeepsTo t touched groups := by
  have hk := hu.trans (changedWithin_sweep hp .kill u)
  have he : ∀ e ∈ (sweep .kill u pids).events, e.MeantFor touched groups :=
    meantFor_sweep hp .kill u
  by_cases hd : (sweep .kill u pids).denied = true
  · simp only [escalate, if_pos hd]
    exact ⟨hk, he⟩
  · simp only [escalate, if_neg hd]
    refine ⟨changedWithin_signalGroup? hg hk .kill, ?_⟩
    simp only [List.forall_mem_append]
    refine ⟨⟨he, meantFor_groupEvents (fun g h => (hg g h).1) .kill⟩, ?_⟩
    split
    · exact fun _ h => absurd h List.not_mem_nil
    · exact List.forall_mem_singleton.mpr trivial

theorem keepsTo_terminate (limit : Number) :
    (terminate t pids limit group).KeepsTo t touched groups := by
  have he : ∀ e ∈ (sweep .term t pids).events, e.MeantFor touched groups :=
    meantFor_sweep hp .term t
  have ho : ∀ p ∈ outlived t pids group, touched p :=
    fun p h => hp p (subset_outlived t pids group p h)
  have hr := keepsTo_escalate hg ho (changedWithin_asked hg hp) limit
    (sweep .term t pids).taken.length
  by_cases hd : (sweep .term t pids).denied = true
  · simp only [terminate, if_pos hd]
    exact ⟨changedWithin_sweep hp .term t, he⟩
  · simp only [terminate, if_neg hd]
    refine ⟨hr.table, ?_⟩
    simp only [List.forall_mem_append, List.forall_mem_cons]
    exact ⟨⟨he, meantFor_groupEvents (fun g h => (hg g h).1) .term⟩, trivial, hr.events⟩

theorem keepsTo_terminateAny (limit : Number) :
    (terminateAny t pids limit group).KeepsTo t touched groups := by
  unfold terminateAny
  split
  · exact ⟨.refl touched t, fun _ h => absurd h List.not_mem_nil⟩
  · exact keepsTo_terminate hg hp limit

end Group

theorem keepsTo_terminateTree (t : ProcessTable) (pid : Pid) (limit : Number) (withGroup : Bool) :
    (terminateTree t pid limit withGroup).KeepsTo t
      (fun p => p ∈ t.tree pid ∨ withGroup = true ∧ t.BelongsTo p pid)
      (fun g => withGroup = true ∧ t.supportsGroups = true ∧ g = pid) := by
  apply keepsTo_terminateAny
  · intro g hg
    obtain ⟨hw, hs, rfl⟩ := ledGroup?_eq_some_iff.mp hg
    exact ⟨⟨hw, hs, rfl⟩, fun p hb => .inr ⟨hw, hb⟩⟩
  · intro p hp
    exact (mem_collected_iff.mp hp).imp id fun ⟨hw, hm⟩ =>
      ⟨hw, ProcessTable.belongsTo_of_mem_members hm⟩

theorem keepsTo_terminateGroup (t : ProcessTable) (group : Pid) (limit : Number) :
    (terminateGroup t group limit).KeepsTo t (t.BelongsTo · group)
      (fun g => t.supportsGroups = true ∧ g = group) := by
  cases hs : t.supportsGroups with
  | false =>
    rw [terminateGroup, ProcessTable.members_of_not_supportsGroups hs]
    exact ⟨.refl _ t, fun _ h => absurd h List.not_mem_nil⟩
  | true =>
    apply keepsTo_terminateAny
    · rintro g ⟨⟩
      exact ⟨⟨rfl, rfl⟩, fun _ hb => hb⟩
    · exact fun _ hp => ProcessTable.belongsTo_of_mem_members hp

/-- Nothing outside its target is touched by a termination, whether it comes to its end or not. One
of a tree alone keeps to the processes of the tree and signals no group. One of a tree with its group
keeps to these and to the group, and one of a group to the group, which is the only group they
signal, if groups can be signalled at all. -/
theorem keeps_to_target (t : ProcessTable) (pid : Pid) (limit : Number) :
    ((terminateTree t pid limit false).KeepsTo t (· ∈ t.tree pid) fun _ => False) ∧
    ((terminateTree t pid limit true).KeepsTo t (fun p => p ∈ t.tree pid ∨ t.BelongsTo p pid)
      fun g => t.supportsGroups = true ∧ g = pid) ∧
    (terminateGroup t pid limit).KeepsTo t (t.BelongsTo · pid)
      fun g => t.supportsGroups = true ∧ g = pid := by
  refine ⟨?_, ?_, keepsTo_terminateGroup t pid limit⟩
  · simpa using keepsTo_terminateTree t pid limit false
  · simpa using keepsTo_terminateTree t pid limit true

end Termination
end Typeset
