import Typeset.Proofs.Termination.Fate

/-!
# Nobody survives a termination

A process that a kill ends is gone after a termination which reaches it. Being listed is enough for
one that is there for the first signal. A member of the signalled group is reached in any case, even
if the list passed it over.
-/

namespace Typeset

def ProcessTable.Compliant (t : ProcessTable) : Prop :=
  ∀ r ∈ t.rows, r.onTerm ≠ .denied ∧ r.onKill ≠ .denied

instance (t : ProcessTable) : Decidable t.Compliant :=
  inferInstanceAs (Decidable (∀ r ∈ t.rows, r.onTerm ≠ .denied ∧ r.onKill ≠ .denied))

/-- Whether a process is known to belong to a group. -/
def ProcessRow.IsMember (r : ProcessRow) (group : Pid) : Prop :=
  r.group = group ∧ r.groupAnswer = .told

namespace Termination

variable {t : ProcessTable} {pids : List Pid} {group : Option Pid} {limit : Number}

/-- An outcome that was reached, in which nobody has come back, and in which the given processes of a
table have ended as far as a kill ends them. -/
structure Outcome.Clears (o : Outcome) (t : ProcessTable) (given : ProcessRow → Prop) : Prop where
  isSome_count : o.count.isSome = true
  isAlive_of : ∀ p, o.table.isAlive p = true → t.isAlive p = true
  row?_eq : ∀ p r, t.row? p = some r → r.isAlive = true → r.onKill = .dies → given r →
    ∃ s, o.table.row? p = some { r with death := some s }

theorem Outcome.Clears.mono {o : Outcome} {given fewer : ProcessRow → Prop} (h : o.Clears t given)
    (hf : ∀ r, fewer r → given r) : o.Clears t fewer :=
  ⟨h.isSome_count, h.isAlive_of, fun p r hr ha hk hp => h.row?_eq p r hr ha hk (hf r hp)⟩

/-- A process is gone afterwards if a kill would end it, supposed that it was there at all. -/
theorem Outcome.Clears.isAlive_eq_false {o : Outcome} {given : ProcessRow → Prop} {p : Pid}
    (h : o.Clears t given)
    (hp : ∀ r, t.row? p = some r → r.isAlive = true → r.onKill = .dies ∧ given r) :
    o.table.isAlive p = false := by
  cases ht : t.isAlive p with
  | false => exact Bool.eq_false_iff.mpr fun ho => by simp [h.isAlive_of p ho] at ht
  | true =>
    cases hr : t.row? p with
    | none => simp [ProcessTable.isAlive, ProcessTable.living?, hr] at ht
    | some r =>
      have ha : r.isAlive = true := (ProcessTable.isAlive_of_row? hr).symm.trans ht
      obtain ⟨hk, hg⟩ := hp r hr ha
      obtain ⟨s, hs⟩ := h.row?_eq p r hr ha hk hg
      exact ProcessTable.isAlive_of_row? hs

theorem unrefused_of_compliant (h : t.Compliant) (pids : List Pid) : Unrefused t pids := by
  intro p _ r hr
  obtain ⟨ht, hk⟩ := h r (ProcessTable.mem_of_row? hr)
  simp [ProcessRow.refuses, ht, hk]

theorem isAlive_of_isAlive_terminate (h : (terminate t pids limit group).count.isSome = true)
    {p : Pid} (ha : (terminate t pids limit group).table.isAlive p = true) :
    t.isAlive p = true := by
  have ho := row?_terminate h p
  cases hr : t.row? p with
  | none => simp [ProcessTable.isAlive, ProcessTable.living?, ho, hr] at ha
  | some r =>
    rw [hr, Option.map_some] at ho
    rw [ProcessTable.isAlive_of_row? ho] at ha
    rw [ProcessTable.isAlive_of_row? hr]
    cases hd : r.isAlive with
    | true => rfl
    | false => simp [ProcessRow.settled, hd] at ha

theorem clears_terminate (h : t.Compliant) (pids : List Pid) (limit : Number)
    (group : Option Pid) :
    (terminate t pids limit group).Clears t fun r =>
      r.pid ∈ pids ∧ r.onTerm ≠ .gone ∨ t.reaches group r = true := by
  have hc : (terminate t pids limit group).count.isSome = true :=
    count_terminate_isSome_iff.mpr (unrefused_of_compliant h pids)
  refine ⟨hc, fun p => isAlive_of_isAlive_terminate hc, fun p r hr ha hk hp => ?_⟩
  have ht : r.onTerm ≠ .denied := (h r (ProcessTable.mem_of_row? hr)).1
  -- the first signal may pass the process over, but then the second one comes with its group
  have hf : (r.fate (p ∈ pids) (t.reaches group r)).isSome = true := by
    apply ProcessRow.fate_isSome hk
    rcases hp with ⟨hm, hn⟩ | hg
    · refine .inr ⟨by simpa [ProcessTable.pid_of_row? hr] using hm, ?_⟩
      cases h : r.onTerm <;> simp_all
    · exact .inl hg
  obtain ⟨s, hs⟩ := Option.isSome_iff_exists.mp hf
  refine ⟨s, ?_⟩
  rw [row?_terminate hc, hr, Option.map_some, ProcessRow.settled, if_pos ha, hs]

theorem clears_terminateAny (h : t.Compliant) {given : ProcessRow → Prop}
    (hg : ∀ r ∈ t.rows, r.isAlive = true → given r →
      r.pid ∈ pids ∧ (r.onTerm ≠ .gone ∨ t.reaches group r = true)) :
    (terminateAny t pids limit group).Clears t given := by
  by_cases hn : pids = []
  · subst hn
    refine ⟨rfl, fun _ ha => ha, fun p r hr ha _ hp => ?_⟩
    exact absurd (hg r (ProcessTable.mem_of_row? hr) ha hp).1 List.not_mem_nil
  · rw [terminateAny, if_neg hn]
    have hc := clears_terminate h pids limit group
    refine ⟨hc.isSome_count, hc.isAlive_of, fun p r hr ha hk hp => hc.row?_eq p r hr ha hk ?_⟩
    obtain ⟨hm, hn | hr⟩ := hg r (ProcessTable.mem_of_row? hr) ha hp
    · exact .inl ⟨hm, hn⟩
    · exact .inr hr

theorem mem_members {g : Pid} {r : ProcessRow} (hg : t.groupSignals = .permitted)
    (hr : r ∈ t.rows) (ha : r.isAlive = true) (hm : r.IsMember g) : r.pid ∈ t.members g := by
  have hs : t.supportsGroups = true := by simp [ProcessTable.supportsGroups, hg]
  exact ProcessTable.mem_members_iff.mpr ⟨hs, r, hr, rfl, ha, hm.2, hm.1⟩

theorem clears_terminateTree_group (hg : t.groupSignals = .permitted) (h : t.Compliant)
    (pid : Pid) (limit : Number) :
    (terminateTree t pid limit true).Clears t fun r =>
      (r.pid ∈ t.tree pid ∨ r.IsMember pid) ∧ (r.onTerm ≠ .gone ∨ r.group = pid) := by
  have hl : ledGroup? t pid true = some pid :=
    ledGroup?_eq_some_iff.mpr ⟨rfl, by simp [ProcessTable.supportsGroups, hg], rfl⟩
  apply clears_terminateAny h
  intro r hr ha ⟨hm, hn⟩
  rw [mem_collected_iff]
  constructor
  · exact hm.imp id fun hm => ⟨rfl, mem_members hg hr ha hm⟩
  · exact hn.imp id fun hn => by simp [ProcessTable.reaches, hl, hg, hn]

theorem clears_terminateTree_alone (h : t.Compliant) (pid : Pid) (limit : Number) :
    (terminateTree t pid limit false).Clears t fun r =>
      r.pid ∈ t.tree pid ∧ r.onTerm ≠ .gone := by
  apply clears_terminateAny h
  intro r hr ha ⟨hm, hn⟩
  exact ⟨mem_collected_iff.mpr (.inl hm), .inl hn⟩

theorem clears_terminateGroup (hg : t.groupSignals = .permitted) (h : t.Compliant) (group : Pid)
    (limit : Number) :
    (terminateGroup t group limit).Clears t fun r => r.IsMember group := by
  apply clears_terminateAny h
  intro r hr ha hm
  exact ⟨mem_members hg hr ha hm, .inr (by simp [ProcessTable.reaches, hg, hm.1])⟩

/-- Where groups can be signalled and nobody refuses, each of the three terminations comes to its end
and leaves nobody behind whom it lists and a kill ends. Not being there for the first signal saves
no member of the group. -/
theorem no_survivors (hg : t.groupSignals = .permitted) (h : t.Compliant) (pid : Pid)
    (limit : Number) :
    ((terminateTree t pid limit true).Clears t fun r =>
      (r.pid ∈ t.tree pid ∨ r.IsMember pid) ∧ (r.onTerm ≠ .gone ∨ r.group = pid)) ∧
    ((terminateGroup t pid limit).Clears t fun r => r.IsMember pid) ∧
    (terminateTree t pid limit false).Clears t fun r =>
      r.pid ∈ t.tree pid ∧ r.onTerm ≠ .gone :=
  ⟨clears_terminateTree_group hg h pid limit, clears_terminateGroup hg h pid limit,
    clears_terminateTree_alone h pid limit⟩

/-- A descendant that has left the group of its leader and ignores the first signal. -/
def runaway : ProcessRow := ⟨3, 3, [], false, .told, .survives, .dies, none⟩

/-- A member of a group that nobody descends to, and that is never there for a signal of its own. -/
def orphan : ProcessRow := ⟨4, 1, [], false, .told, .gone, .dies, none⟩

/-- A leader that ignores the first signal, with two descendants, an orphan and a stranger. -/
def family : ProcessTable where
  rows :=
    [⟨1, 1, [2, 3], false, .told, .survives, .dies, none⟩,
      ⟨2, 1, [], false, .denied, .dies, .dies, none⟩,
      runaway,
      orphan,
      ⟨5, 5, [], false, .told, .dies, .dies, none⟩]
  groupSignals := .permitted

theorem no_survivors_family :
    family.groupSignals = .permitted ∧ family.Compliant ∧
      (∃ s, (terminateTree family 1 (.int 3) true).table.row? 4 =
        some { orphan with death := some s }) ∧
      (∃ s, (terminateGroup family 1 (.int 3)).table.row? 4 =
        some { orphan with death := some s }) ∧
      ∃ s, (terminateTree family 1 (.int 3) false).table.row? 3 =
        some { runaway with death := some s } := by
  have hc : family.Compliant := by decide
  obtain ⟨whole, group, tree⟩ := no_survivors rfl hc 1 (.int 3)
  refine ⟨rfl, hc, ?_, ?_, ?_⟩
  · exact whole.row?_eq 4 orphan rfl rfl rfl ⟨.inr ⟨rfl, rfl⟩, .inr rfl⟩
  · exact group.row?_eq 4 orphan rfl rfl rfl ⟨rfl, rfl⟩
  · exact tree.row?_eq 3 runaway rfl rfl rfl ⟨by decide, by decide⟩

end Termination
end Typeset
