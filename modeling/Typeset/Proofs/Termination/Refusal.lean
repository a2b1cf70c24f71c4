import Typeset.Proofs.Termination.Survivors

/-!
# What a refusal does to the others

A table is compared with its lenient twin, in which whoever refuses a signal survives it instead. As
long as nobody on the list refuses, both are terminated alike. The first refusal ends the attempt and
so shields everybody who would have come later: the other processes of the list, and the group.
-/

namespace Typeset

def Reaction.lenient : Reaction → Reaction
  | .denied => .survives
  | a => a

namespace ProcessRow

def lenient (r : ProcessRow) : ProcessRow :=
  { r with onTerm := r.onTerm.lenient, onKill := r.onKill.lenient }

@[simp] theorem reaction_lenient (r : ProcessRow) (s : Signal) :
    r.lenient.reaction s = (r.reaction s).lenient := by
  cases s <;> rfl

theorem lenient_struck (r : ProcessRow) (s : Signal) : (r.struck s).lenient = r.lenient.struck s := by
  have hd : (r.reaction s).lenient = .dies ↔ r.reaction s = .dies := by
    cases r.reaction s <;> simp [Reaction.lenient]
  have ha : r.lenient.isAlive = r.isAlive := rfl
  simp only [struck, reaction_lenient, hd, ha]
  split <;> rfl

theorem reception_lenient {r : ProcessRow} {s : Signal} (h : r.reception s ≠ .denied) :
    r.lenient.reception s = r.reception s := by
  have ha : r.lenient.isAlive = r.isAlive := rfl
  unfold reception at h ⊢
  rw [reaction_lenient, ha]
  cases hr : r.reaction s <;> simp_all [Reaction.lenient]

end ProcessRow

namespace ProcessTable

/-- The table in which whoever refuses a signal survives it. -/
def lenient (t : ProcessTable) : ProcessTable := { t with rows := t.rows.map (·.lenient) }

theorem row?_lenient (t : ProcessTable) (p : Pid) :
    t.lenient.row? p = (t.row? p).map (·.lenient) :=
  find?_map_of_pid (f := (·.lenient)) (fun _ => rfl) p t.rows

theorem living?_lenient (t : ProcessTable) (p : Pid) :
    t.lenient.living? p = (t.living? p).map (·.lenient) := by
  rw [living?, living?, row?_lenient]
  cases t.row? p with
  | none => rfl
  | some r =>
    have ha : r.lenient.isAlive = r.isAlive := rfl
    cases h : r.isAlive <;> simp [Option.filter, ha, h]

theorem isAlive_lenient (t : ProcessTable) (p : Pid) : t.lenient.isAlive p = t.isAlive p := by
  simp [isAlive, living?_lenient]

theorem reception_lenient {t : ProcessTable} {s : Signal} {p : Pid}
    (h : t.reception s p ≠ .denied) : t.lenient.reception s p = t.reception s p := by
  unfold reception at h ⊢
  rw [row?_lenient]
  cases hr : t.row? p with
  | none => rfl
  | some r =>
    simp only [hr, Option.elim_some] at h
    exact ProcessRow.reception_lenient h

theorem lenient_signal (t : ProcessTable) (s : Signal) (p : Pid) :
    (t.signal s p).lenient = t.lenient.signal s p := by
  simp only [lenient, signal, List.map_map]
  congr 2
  funext r
  have hp : r.lenient.pid = r.pid := rfl
  simp only [Function.comp_apply, hp]
  split
  · exact r.lenient_struck s
  · rfl

theorem lenient_signalGroup (t : ProcessTable) (s : Signal) (g : Pid) :
    (t.signalGroup s g).lenient = t.lenient.signalGroup s g := by
  by_cases h : t.groupSignals = .permitted
  · simp only [signalGroup, if_pos h, lenient, List.map_map]
    congr 2
    funext r
    have hp : r.lenient.group = r.group := rfl
    simp only [Function.comp_apply, hp]
    split
    · exact r.lenient_struck s
    · rfl
  · rw [signalGroup_of_not_permitted h, signalGroup_of_not_permitted (t := t.lenient) h]

theorem tree_lenient (t : ProcessTable) (p : Pid) : t.lenient.tree p = t.tree p := by
  rw [tree, tree, living?_lenient]
  cases t.living? p <;> rfl

theorem members_lenient (t : ProcessTable) (g : Pid) : t.lenient.members g = t.members g := by
  simp only [members, lenient, List.filter_map, List.map_map]
  rfl

end ProcessTable

namespace Termination

variable {t : ProcessTable} {pids : List Pid} {group : Option Pid} {limit : Number}

theorem sweep_lenient {s : Signal} (h : (sweep s t pids).denied = false) :
    sweep s t.lenient pids = { sweep s t pids with table := (sweep s t pids).table.lenient } := by
  induction pids generalizing t with
  | nil => rfl
  | cons p pids ih =>
    simp only [sweep] at h ⊢
    cases hr : t.reception s p with
    | taken =>
      rw [ProcessTable.reception_lenient (by simp [hr]), hr, ← ProcessTable.lenient_signal]
      simp only [hr] at h ⊢
      rw [ih h]
    | noProcess =>
      rw [ProcessTable.reception_lenient (by simp [hr]), hr]
      simp only [hr] at h ⊢
      rw [ih h]
    | denied => simp [hr] at h

theorem signalGroup?_lenient (t : ProcessTable) (s : Signal) (group : Option Pid) :
    signalGroup? t.lenient s group = (signalGroup? t s group).lenient := by
  cases group with
  | none => rfl
  | some g => exact (t.lenient_signalGroup s g).symm

theorem asked_lenient (h : (sweep .term t pids).denied = false) :
    asked t.lenient pids group = (asked t pids group).lenient := by
  rw [asked, sweep_lenient h, signalGroup?_lenient]
  rfl

theorem outlived_lenient (h : (sweep .term t pids).denied = false) :
    outlived t.lenient pids group = outlived t pids group := by
  rw [outlived, outlived, sweep_lenient h, asked_lenient h]
  congr 1
  funext p
  exact ProcessTable.isAlive_lenient _ p

/-- A termination that comes to its end does to the lenient twin what it does to the table. -/
theorem terminate_lenient (h : (terminate t pids limit group).count.isSome = true) :
    terminate t.lenient pids limit group =
      { terminate t pids limit group with
        table := (terminate t pids limit group).table.lenient } := by
  obtain ⟨h1, h2⟩ := sweeps_not_denied h
  simp only [terminate, escalate, outlived_lenient h1, asked_lenient h1, sweep_lenient h1,
    sweep_lenient h2, signalGroup?_lenient, h1, h2, Bool.false_eq_true, if_false]

theorem terminateAny_lenient (h : (terminateAny t pids limit group).count.isSome = true) :
    terminateAny t.lenient pids limit group =
      { terminateAny t pids limit group with
        table := (terminateAny t pids limit group).table.lenient } := by
  by_cases hn : pids = []
  · subst hn
    rfl
  · simp only [terminateAny, if_neg hn] at h ⊢
    exact terminate_lenient h

def Event.meets (r : ProcessRow) : Event → Bool
  | .signal _ p => p = r.pid
  | .groupSignal _ g => g = r.group
  | .wait _ _ => false

/-- A termination comes to its end, and every process on its list that takes signals meets the same
ones and the same end as in the lenient twin. -/
def Impartial (ends : ProcessTable → Outcome) (t : ProcessTable) (pids : List Pid) : Prop :=
  (ends t).count.isSome = true ∧
    ∀ p ∈ pids, ∀ r, t.row? p = some r → r.onTerm ≠ .denied ∧ r.onKill ≠ .denied →
      (ends t).events.filter (·.meets r) = (ends t.lenient).events.filter (·.meets r) ∧
      ((ends t).table.row? p).map (·.death) = ((ends t.lenient).table.row? p).map (·.death)

theorem impartial_iff {ends : ProcessTable → Outcome}
    (hr : (ends t).count.isSome = true ↔ Unrefused t pids)
    (hl : (ends t).count.isSome = true →
      ends t.lenient = { ends t with table := (ends t).table.lenient }) :
    Impartial ends t pids ↔ Unrefused t pids := by
  constructor
  · exact fun h => hr.mp h.1
  · intro h
    have hs := hr.mpr h
    refine ⟨hs, fun p _ r _ _ => ?_⟩
    rw [hl hs]
    refine ⟨rfl, ?_⟩
    rw [ProcessTable.row?_lenient, Option.map_map]
    rfl

theorem terminateTree_lenient {pid : Pid} {withGroup : Bool}
    (h : (terminateTree t pid limit withGroup).count.isSome = true) :
    terminateTree t.lenient pid limit withGroup =
      { terminateTree t pid limit withGroup with
        table := (terminateTree t pid limit withGroup).table.lenient } := by
  have hg : ledGroup? t.lenient pid withGroup = ledGroup? t pid withGroup := rfl
  have hm : t.lenient.members = t.members := funext t.members_lenient
  have hc : collected t.lenient pid withGroup = collected t pid withGroup := by
    rw [collected, collected, hg, hm, t.tree_lenient]
  rw [terminateTree, hc, hg]
  exact terminateAny_lenient h

theorem terminateGroup_lenient {g : Pid}
    (h : (terminateGroup t g limit).count.isSome = true) :
    terminateGroup t.lenient g limit =
      { terminateGroup t g limit with table := (terminateGroup t g limit).table.lenient } := by
  rw [terminateGroup, t.members_lenient]
  exact terminateAny_lenient h

/-- The processes in front of the one that refuses first get their signal, and nobody else gets any:
the rest of the list and the group are spared. -/
theorem events_terminate_of_refusal {before after : List Pid} {p : Pid}
    (hb : ∀ q ∈ before, t.reception .term q ≠ .denied) (hp : t.reception .term p = .denied) :
    (terminate t (before ++ p :: after) limit group).events =
      (before ++ [p]).map (.signal .term) := by
  have h : (sweep .term t (before ++ p :: after)).denied = true :=
    (denied_sweep_iff _ _ _).mpr ⟨p, by simp, hp⟩
  rw [terminate, if_pos h]
  exact events_sweep_of_refusal hb hp after

/-- The same holds for who outlived the first signal: behind a refusal nobody else is killed, neither
one by one nor with the group. -/
theorem events_terminate_of_late_refusal {before after : List Pid} {p : Pid}
    (h : (sweep .term t pids).denied = false)
    (ho : outlived t pids group = before ++ p :: after)
    (hb : ∀ q ∈ before, (asked t pids group).reception .kill q ≠ .denied)
    (hp : (asked t pids group).reception .kill p = .denied) :
    (terminate t pids limit group).events =
      (sweep .term t pids).events ++ groupEvents .term group ++
        .wait (sweep .term t pids).taken limit :: (before ++ [p]).map (.signal .kill) := by
  have hk : (sweep .kill (asked t pids group) (outlived t pids group)).denied = true :=
    (denied_sweep_iff _ _ _).mpr ⟨p, by simp [ho], hp⟩
  have he := events_sweep_of_refusal hb hp after
  simp only [terminate, h, Bool.false_eq_true, if_false, escalate, if_pos hk]
  rw [ho, he]

def guarded : ProcessTable where
  rows :=
    [⟨1, 1, [2], false, .told, .dies, .dies, none⟩,
      ⟨2, 1, [], false, .told, .denied, .denied, none⟩]
  groupSignals := .permitted

/-- The leader survives because its descendant refuses; it would not if that just survived. -/
theorem guarded_not_impartial :
    ¬ Impartial (terminateTree · 1 (.int 3) true) guarded (collected guarded 1 true) ∧
      (terminateTree guarded 1 (.int 3) true).table.isAlive 1 = true ∧
      (terminateTree guarded.lenient 1 (.int 3) true).table.isAlive 1 = false :=
  ⟨fun h => absurd h.1 (by decide), by decide, by decide⟩

/-- There is a count, and the others fare as if those that may not be signalled had just survived,
exactly when no listed process refuses a signal: none that is there denies the first one, and none
that survives it denies the second one. -/
theorem impartial_iff_unrefused (t : ProcessTable) (pid : Pid) (limit : Number) :
    (∀ withGroup,
      ((terminateTree t pid limit withGroup).count.isSome = true ↔
        Unrefused t (collected t pid withGroup)) ∧
      (Impartial (terminateTree · pid limit withGroup) t (collected t pid withGroup) ↔
        Unrefused t (collected t pid withGroup))) ∧
    ((terminateGroup t pid limit).count.isSome = true ↔ Unrefused t (t.members pid)) ∧
    (Impartial (terminateGroup · pid limit) t (t.members pid) ↔ Unrefused t (t.members pid)) :=
  ⟨fun _ => ⟨count_terminateAny_isSome_iff,
      impartial_iff count_terminateAny_isSome_iff terminateTree_lenient⟩,
    count_terminateAny_isSome_iff,
    impartial_iff count_terminateAny_isSome_iff terminateGroup_lenient⟩

end Termination
end Typeset
