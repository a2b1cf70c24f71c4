import Mathlib.Data.List.Perm.Subperm
import Typeset.Proofs.Termination.Escalation
import Typeset.Proofs.Termination.Frame

/-!
# Terminating twice

A signal does nothing to a process that got it before, whatever came in between. A termination that
comes to its end leaves nobody to whom it could do more, and made again it finds nobody new. So the
second one changes nothing. It may go another way: where the root is gone, only its group is listed.
-/

namespace Typeset

namespace ProcessRow
variable {r : ProcessRow} {s : Signal}

theorem struck_eq_self_iff : r.struck s = r ↔ (r.isAlive = true → r.reaction s ≠ .dies) := by
  constructor
  · intro h ha hd
    have hdead : (r.struck s).isAlive = false := by simp [isAlive_struck, hd]
    rw [h, ha] at hdead
    cases hdead
  · intro h
    cases ha : r.isAlive with
    | false => exact struck_of_dead ha s
    | true => exact struck_of_ne (h ha)

/-- What a signal leaves as it is, it leaves so after any other signal. -/
theorem struck_struck_of_eq (h : r.struck s = r) (u : Signal) :
    (r.struck u).struck s = r.struck u := by
  rw [struck_eq_self_iff] at h ⊢
  intro ha
  rw [isAlive_struck, Bool.and_eq_true] at ha
  rw [reaction_struck]
  exact h ha.1

/-- Who is still there after a change is as it was before. -/
theorem ChangedWithin.eq_of_isAlive {touched : Pid → Prop} {a b : ProcessRow}
    (h : a.ChangedWithin touched b) (hb : b.isAlive = true) : b = a := by
  rcases h with rfl | ⟨-, s, rfl⟩
  · rfl
  · rw [isAlive_struck, Bool.and_eq_true] at hb
    exact struck_of_ne (of_decide_eq_true hb.2)

end ProcessRow

namespace ProcessTable
variable {t u : ProcessTable} {s : Signal} {p : Pid}

theorem exists_row?_of_reception_ne (h : t.reception s p ≠ .noProcess) :
    ∃ r, t.row? p = some r ∧ r.isAlive = true := by
  cases hr : t.row? p with
  | none => simp [reception, hr] at h
  | some r =>
    refine ⟨r, rfl, ?_⟩
    rw [reception_of_row? hr] at h
    cases ha : r.isAlive with
    | true => rfl
    | false => simp [ProcessRow.reception, ha] at h

/-- A signal does nothing to the given processes. -/
def Withstands (t : ProcessTable) (s : Signal) (given : ProcessRow → Prop) : Prop :=
  ∀ r ∈ t.rows, given r → r.struck s = r

theorem withstands_signal (t : ProcessTable) (s : Signal) (p : Pid) :
    (t.signal s p).Withstands s (·.pid = p) := by
  intro b hb hp
  obtain ⟨a, -, rfl⟩ := List.mem_map.mp hb
  have ha : a.pid = p := by
    split at hp
    · rwa [ProcessRow.pid_struck] at hp
    · exact hp
  rw [if_pos ha]
  exact a.struck_struck s

theorem signal_of_withstands (h : t.Withstands s (·.pid = p)) : t.signal s p = t := by
  have hrows : (t.rows.map fun r => if r.pid = p then r.struck s else r) = t.rows := by
    refine (List.map_congr_left fun r hr => ?_).trans t.rows.map_id
    split
    next hp => exact h r hr hp
    next => rfl
  rw [signal, hrows]

namespace ChangedWithin
variable {touched : Pid → Prop} (h : t.ChangedWithin touched u)
include h

theorem withstands {given : ProcessRow → Prop} (hg : ∀ r v, given (r.struck v) → given r)
    (ht : t.Withstands s given) : u.Withstands s given := by
  intro b hb hgiven
  obtain ⟨a, ha, rfl | ⟨-, v, rfl⟩⟩ := mem_rows h.rows hb
  · exact ht b ha hgiven
  · exact ProcessRow.struck_struck_of_eq (ht a ha (hg a v hgiven)) v

theorem withstands_pid (ht : t.Withstands s (·.pid = p)) : u.Withstands s (·.pid = p) :=
  h.withstands (fun r v hp => (r.pid_struck v).symm.trans hp) ht

theorem withstands_reaches {group : Option Pid} (ht : t.Withstands s (t.reaches group · = true)) :
    u.Withstands s (u.reaches group · = true) := by
  have hu : ∀ r, u.reaches group r = t.reaches group r :=
    Termination.reaches_of_groupSignals_eq h.groupSignals
  simp only [hu]
  exact h.withstands (fun r v hr => (Termination.reaches_struck t group r v).symm.trans hr) ht

theorem row?_of_isAlive {r : ProcessRow} (hr : u.row? p = some r) (ha : r.isAlive = true) :
    t.row? p = some r := by
  have hrows := h.rows
  rw [row?] at hr ⊢
  generalize t.rows = before at hrows ⊢
  generalize u.rows = after at hrows hr
  induction hrows with
  | nil => cases hr
  | @cons a b _ _ hab _ ih =>
    rw [List.find?_cons, hab.pid_eq] at hr
    rw [List.find?_cons]
    by_cases hp : a.pid = p
    · simp only [hp, decide_true, Option.some.injEq] at hr ⊢
      subst hr
      exact (hab.eq_of_isAlive ha).symm
    · simp only [hp, decide_false] at hr ⊢
      exact ih hr

theorem reception_eq (hr : u.reception s p ≠ .noProcess) : t.reception s p = u.reception s p := by
  obtain ⟨r, hrow, ha⟩ := exists_row?_of_reception_ne hr
  rw [reception_of_row? hrow, reception_of_row? (h.row?_of_isAlive hrow ha)]

/-- A process that is still there lists the same tree. -/
theorem tree_eq_or_nil (pid : Pid) : u.tree pid = t.tree pid ∨ u.tree pid = [] := by
  cases hl : u.living? pid with
  | none => exact .inr (by rw [tree, hl])
  | some r =>
    obtain ⟨hr, ha⟩ := Option.filter_eq_some_iff.mp hl
    have ht : t.living? pid = some r :=
      Option.filter_eq_some_iff.mpr ⟨h.row?_of_isAlive hr ha, ha⟩
    exact .inl (by rw [tree, tree, hl, ht])

theorem supportsGroups_eq : u.supportsGroups = t.supportsGroups := by
  rw [supportsGroups, supportsGroups, h.groupSignals]

/-- Nobody joins a group. -/
theorem members_sublist (group : Pid) : (u.members group).Sublist (t.members group) := by
  have hrows := h.rows
  rw [members, members, h.supportsGroups_eq]
  split
  · refine List.Sublist.map _ ?_
    generalize t.rows = before at hrows ⊢
    generalize u.rows = after at hrows ⊢
    induction hrows with
    | nil => exact .slnil
    | @cons a b _ _ hab _ ih =>
      by_cases hb : b.isAlive = true
      · obtain rfl := hab.eq_of_isAlive hb
        rw [List.filter_cons, List.filter_cons]
        split
        · exact ih.cons_cons b
        · exact ih
      · rw [List.filter_cons_of_neg (by simp [hb])]
        exact ih.trans ((List.sublist_cons_self a _).filter _)
  · exact List.nil_sublist _

end ChangedWithin
end ProcessTable

namespace Termination

variable {s : Signal} {t u : ProcessTable} {pids again : List Pid} {group : Option Pid}
variable {limit : Number} {pid p : Pid}

theorem withstands_signalGroup? (t : ProcessTable) (s : Signal) (group : Option Pid) :
    (signalGroup? t s group).Withstands s ((signalGroup? t s group).reaches group · = true) := by
  cases group with
  | none =>
    rintro _ - h
    simp [ProcessTable.reaches] at h
  | some g =>
    intro b hb hr
    rw [reaches_of_groupSignals_eq (groupSignals_signalGroup? t s _)] at hr
    obtain ⟨hp, hbg⟩ : t.groupSignals = .permitted ∧ g = b.group := by
      simpa [ProcessTable.reaches] using hr
    rw [signalGroup?, Option.elim_some, ProcessTable.signalGroup, if_pos hp] at hb
    obtain ⟨a, -, rfl⟩ := List.mem_map.mp hb
    have ha : a.group = g := by
      split at hbg
      · rw [hbg, ProcessRow.group_struck]
      · exact hbg.symm
    rw [if_pos ha]
    exact a.struck_struck s

theorem signalGroup?_of_withstands (h : t.Withstands s (t.reaches group · = true)) :
    signalGroup? t s group = t := by
  cases group with
  | none => rfl
  | some g =>
    show t.signalGroup s g = t
    by_cases hp : t.groupSignals = .permitted
    · have hrows : (t.rows.map fun r => if r.group = g then r.struck s else r) = t.rows := by
        refine (List.map_congr_left fun r hr => ?_).trans t.rows.map_id
        split
        next hg => exact h r hr (by simp [ProcessTable.reaches, hp, hg])
        next => rfl
      rw [ProcessTable.signalGroup, if_pos hp, hrows]
    · exact ProcessTable.signalGroup_of_not_permitted hp s g

abbrev Signalled (t u : ProcessTable) : Prop := t.ChangedWithin (fun _ => True) u

theorem signalled_sweep (s : Signal) (t : ProcessTable) (pids : List Pid) :
    Signalled t (sweep s t pids).table :=
  changedWithin_sweep (fun _ _ => trivial) s t

theorem signalled_signalGroup? (t : ProcessTable) (s : Signal) (group : Option Pid) :
    Signalled t (signalGroup? t s group) := by
  have hg : ∀ g, group = some g → True ∧ ∀ p, t.BelongsTo p g → True :=
    fun _ _ => ⟨trivial, fun _ _ => trivial⟩
  exact changedWithin_signalGroup? hg (.refl _ t) s

theorem signalled_terminate (t : ProcessTable) (pids : List Pid) (limit : Number)
    (group : Option Pid) : Signalled t (terminate t pids limit group).table := by
  have hg : ∀ g, group = some g → True ∧ ∀ p, t.BelongsTo p g → True :=
    fun _ _ => ⟨trivial, fun _ _ => trivial⟩
  exact (keepsTo_terminate hg (fun _ _ => trivial) limit).table

theorem withstands_sweep (hp : p ∈ (sweep s t pids).taken) :
    (sweep s t pids).table.Withstands s (·.pid = p) := by
  induction pids generalizing t with
  | nil => exact absurd hp List.not_mem_nil
  | cons q pids ih =>
    rw [sweep] at hp ⊢
    cases hr : t.reception s q with
    | taken =>
      simp only [hr] at hp ⊢
      rcases List.mem_cons.mp hp with rfl | hp
      · exact (signalled_sweep s _ pids).withstands_pid (t.withstands_signal s p)
      · exact ih hp
    | noProcess =>
      simp only [hr] at hp ⊢
      exact ih hp
    | denied => simp [hr] at hp

/-- A sweep leaves a table as it is if nobody who takes the signal is changed by it. -/
theorem sweep_of_withstands
    (h : ∀ p ∈ pids, t.reception s p = .taken → t.Withstands s (·.pid = p))
    (hd : (sweep s t pids).denied = false) :
    (sweep s t pids).table = t ∧
      (sweep s t pids).taken = pids.filter fun p => t.reception s p = .taken := by
  induction pids with
  | nil => exact ⟨rfl, rfl⟩
  | cons q pids ih =>
    obtain ⟨hq, h⟩ := List.forall_mem_cons.mp h
    rw [sweep] at hd ⊢
    cases hr : t.reception s q with
    | taken =>
      simp only [hr, ProcessTable.signal_of_withstands (hq hr)] at hd ⊢
      rw [List.filter_cons_of_pos (by simp [hr])]
      exact ⟨(ih h hd).1, congrArg _ (ih h hd).2⟩
    | noProcess =>
      simp only [hr] at hd ⊢
      rw [List.filter_cons_of_neg (by simp [hr])]
      exact ih h hd
    | denied => simp [hr] at hd

/-- A process is there and survives a signal. -/
def Outlasts (t : ProcessTable) (s : Signal) (p : Pid) : Prop :=
  ∃ r, t.row? p = some r ∧ r.isAlive = true ∧ r.reaction s = .survives

theorem Outlasts.reception_eq (h : Outlasts t s p) : t.reception s p = .taken := by
  obtain ⟨r, hr, ha, hs⟩ := h
  rw [ProcessTable.reception_of_row? hr, ProcessRow.reception_eq_taken_iff]
  exact ⟨ha, .inr hs⟩

theorem Outlasts.signal (h : Outlasts t s p) (q : Pid) : Outlasts (t.signal s q) s p := by
  obtain ⟨r, hr, ha, hs⟩ := h
  have hstruck : r.struck s = r := ProcessRow.struck_of_ne (by rw [hs]; rintro ⟨⟩)
  refine ⟨r, ?_, ha, hs⟩
  rw [ProcessTable.row?_signal, hr, Option.map_some, hstruck, ite_self]

theorem Signalled.outlasts (h : Signalled t u) (ho : Outlasts u s p) : Outlasts t s p := by
  obtain ⟨r, hr, ha, hs⟩ := ho
  exact ⟨r, h.row?_of_isAlive hr ha, ha, hs⟩

theorem outlasts_of_withstands (h : t.Withstands s (·.pid = p)) (hr : t.reception s p = .taken) :
    Outlasts t s p := by
  obtain ⟨r, hrow, ha⟩ := ProcessTable.exists_row?_of_reception_ne (by rw [hr]; rintro ⟨⟩)
  have hstruck := h r (ProcessTable.mem_of_row? hrow) (ProcessTable.pid_of_row? hrow)
  rw [ProcessTable.reception_of_row? hrow, ProcessRow.reception_eq_taken_iff] at hr
  exact ⟨r, hrow, ha, hr.2.resolve_left (ProcessRow.struck_eq_self_iff.mp hstruck ha)⟩

/-- Who survives a signal takes it as often as it is listed. -/
theorem sublist_taken_of_outlasts {kept : List Pid} (hk : ∀ p ∈ kept, Outlasts t s p)
    (hsub : kept.Sublist pids) (hd : (sweep s t pids).denied = false) :
    kept.Sublist (sweep s t pids).taken := by
  induction hsub generalizing t with
  | slnil => exact .slnil
  | @cons kept pids q hsub ih =>
    rw [sweep] at hd ⊢
    cases hr : t.reception s q with
    | taken =>
      simp only [hr] at hd ⊢
      exact (ih (fun p hp => (hk p hp).signal q) hd).cons q
    | noProcess =>
      simp only [hr] at hd ⊢
      exact ih hk hd
    | denied => simp [hr] at hd
  | @cons_cons kept pids q hsub ih =>
    obtain ⟨hq, hk⟩ := List.forall_mem_cons.mp hk
    rw [sweep, hq.reception_eq] at hd ⊢
    exact (ih (fun p hp => (hk p hp).signal q) hd).cons_cons q

section Ended
variable (h : (terminate t pids limit group).count.isSome = true)
include h

/-- The first signal does nothing more to those who were asked to end. -/
theorem withstands_term (hp : p ∈ pids)
    (hr : (terminate t pids limit group).table.reception .term p = .taken) :
    (terminate t pids limit group).table.Withstands .term (·.pid = p) := by
  have ht : t.reception .term p = .taken := by
    rw [(signalled_terminate t pids limit group).reception_eq (by rw [hr]; rintro ⟨⟩), hr]
  have htaken := (mem_taken_sweep_iff (sweeps_not_denied h).1 p).mpr ⟨hp, ht⟩
  rw [table_terminate h]
  apply (signalled_signalGroup? _ _ _).withstands_pid
  apply (signalled_sweep _ _ _).withstands_pid
  apply (signalled_signalGroup? _ _ _).withstands_pid
  exact withstands_sweep htaken

/-- The second signal does nothing more to those who outlived the first one. -/
theorem withstands_kill (hp : p ∈ pids)
    (ho : Outlasts (terminate t pids limit group).table .term p)
    (hr : (terminate t pids limit group).table.reception .kill p = .taken) :
    (terminate t pids limit group).table.Withstands .kill (·.pid = p) := by
  obtain ⟨h1, h2⟩ := sweeps_not_denied h
  have hsignalled := signalled_terminate t pids limit group
  have hmem : p ∈ outlived t pids group := (mem_outlived_iff h1 p).mpr ⟨hp, hsignalled.outlasts ho⟩
  have hk : (asked t pids group).reception .kill p = .taken := by
    rw [ProcessTable.reception, row?_asked_of_mem_outlived h1 hmem, ← ProcessTable.reception,
      hsignalled.reception_eq (by rw [hr]; rintro ⟨⟩), hr]
  have htaken := (mem_taken_sweep_iff h2 p).mpr ⟨hmem, hk⟩
  rw [table_terminate h]
  exact (signalled_signalGroup? _ _ _).withstands_pid (withstands_sweep htaken)

theorem signalGroup?_terminate (s : Signal) :
    signalGroup? (terminate t pids limit group).table s group =
      (terminate t pids limit group).table := by
  rw [table_terminate h]
  apply signalGroup?_of_withstands
  cases s with
  | term =>
    apply (signalled_signalGroup? _ _ _).withstands_reaches
    apply (signalled_sweep _ _ _).withstands_reaches
    exact withstands_signalGroup? _ .term group
  | kill => exact withstands_signalGroup? _ .kill group

theorem unrefused_terminate (hs : ∀ p ∈ again, p ∈ pids) :
    Unrefused (terminate t pids limit group).table again := by
  intro p hp r hr
  cases ha : r.isAlive with
  | false => simp [ProcessRow.refuses, ha]
  | true =>
    have hrow := (signalled_terminate t pids limit group).row?_of_isAlive hr ha
    exact count_terminate_isSome_iff.mp h p (hs p hp) r hrow

/-- A termination of none but those of an earlier one comes to its end, and it changes nothing. -/
theorem terminate_terminate (hs : ∀ p ∈ again, p ∈ pids) :
    let u := (terminate t pids limit group).table
    (terminate u again limit group).table = u ∧
      (terminate u again limit group).count =
        some (again.filter fun p => u.reception .term p = .taken).length := by
  intro u
  have hc : (terminate u again limit group).count.isSome = true :=
    count_terminate_isSome_iff.mpr (unrefused_terminate h hs)
  obtain ⟨h1, h2⟩ := sweeps_not_denied hc
  have hterm : (sweep .term u again).table = u ∧ (sweep .term u again).taken = _ :=
    sweep_of_withstands (fun p hp hr => withstands_term h (hs p hp) hr) h1
  have hasked : asked u again group = u := by
    rw [asked, hterm.1]
    exact signalGroup?_terminate h .term
  have hkill : (sweep .kill u (outlived u again group)).table = u := by
    rw [hasked] at h2
    refine (sweep_of_withstands (fun p hp hr => ?_) h2).1
    obtain ⟨hmem, ho⟩ := (mem_outlived_iff h1 p).mp hp
    exact withstands_kill h (hs p hmem) ho hr
  constructor
  · rw [table_terminate hc, hasked, hkill]
    exact signalGroup?_terminate h .kill
  · rw [count_terminate, h1, h2, hterm.2]
    rfl

theorem length_filter_le_length_taken (hs : again.Subperm pids) :
    (again.filter fun p =>
      (terminate t pids limit group).table.reception .term p = .taken).length ≤
      (sweep .term t pids).taken.length := by
  have hkept : (pids.filter fun p =>
      (terminate t pids limit group).table.reception .term p = .taken).Sublist
      (sweep .term t pids).taken := by
    refine sublist_taken_of_outlasts (fun p hp => ?_) List.filter_sublist (sweeps_not_denied h).1
    obtain ⟨hmem, hr⟩ := List.mem_filter.mp hp
    have hr := of_decide_eq_true hr
    apply (signalled_terminate t pids limit group).outlasts
    exact outlasts_of_withstands (withstands_term h hmem hr) hr
  exact Nat.le_trans (hs.filter _).length_le hkept.length_le

end Ended

theorem signalled_terminateAny (t : ProcessTable) (pids : List Pid) (limit : Number)
    (group : Option Pid) : Signalled t (terminateAny t pids limit group).table := by
  unfold terminateAny
  split
  · exact .refl _ t
  · exact signalled_terminate t pids limit group

section Listed
variable (h : Signalled t u)
include h

theorem subset_collected (pid : Pid) (withGroup : Bool) :
    ∀ p ∈ collected u pid withGroup, p ∈ collected t pid withGroup := by
  intro p hp
  rw [mem_collected_iff] at hp ⊢
  rcases hp with hp | ⟨hw, hp⟩
  · rcases h.tree_eq_or_nil pid with he | he
    · exact .inl (he ▸ hp)
    · rw [he] at hp
      cases hp
  · exact .inr ⟨hw, (h.members_sublist pid).subset hp⟩

/-- Where the root is gone, the members of its group are listed in another order than before. -/
theorem subperm_collected (hn : (t.rows.map (·.pid)).Nodup) (pid : Pid) (withGroup : Bool) :
    (collected u pid withGroup).Subperm (collected t pid withGroup) := by
  have hsubset := subset_collected h pid withGroup
  rw [collected_eq u, collected_eq t] at *
  rcases h.tree_eq_or_nil pid with he | he
  · rw [he]
    cases withGroup with
    | false => exact List.Subperm.refl _
    | true => exact (((h.members_sublist pid).filter _).append_left _).subperm
  · rw [he] at hsubset ⊢
    have hmembers : (u.members pid).Nodup :=
      (hn.sublist (t.members_sublist pid)).sublist (h.members_sublist pid)
    refine List.subperm_of_subset ?_ hsubset
    cases withGroup with
    | false => exact List.nodup_nil
    | true => exact hmembers.filter _

end Listed

/-- A second outcome repeats a first one, both for processes of a table: nothing has changed, and nobody
new was listed. No more processes took the first signal, given that no two of the table have one
number. -/
structure Outcome.RepeatedBy (first second : Outcome) (t : ProcessTable) (pids again : List Pid) :
    Prop where
  table_eq : second.table = first.table
  subset : ∀ p ∈ again, p ∈ pids
  count_le : ∃ n m, first.count = some n ∧ second.count = some m ∧
    ((t.rows.map (·.pid)).Nodup → m ≤ n)

theorem repeatedBy_terminateAny (h : (terminateAny t pids limit group).count.isSome = true)
    (hs : ∀ p ∈ again, p ∈ pids) (hn : (t.rows.map (·.pid)).Nodup → again.Subperm pids) :
    (terminateAny t pids limit group).RepeatedBy
      (terminateAny (terminateAny t pids limit group).table again limit group) t pids again := by
  by_cases ha : again = []
  · subst ha
    obtain ⟨n, hcount⟩ := Option.isSome_iff_exists.mp h
    exact ⟨rfl, hs, n, 0, hcount, rfl, fun _ => Nat.zero_le n⟩
  · have hp : pids ≠ [] := by
      rintro rfl
      exact ha (List.eq_nil_iff_forall_not_mem.mpr fun p hp => List.not_mem_nil (hs p hp))
    simp only [terminateAny, if_neg ha, if_neg hp] at h ⊢
    obtain ⟨h1, h2⟩ := sweeps_not_denied h
    obtain ⟨htable, hcount⟩ := terminate_terminate h hs
    refine ⟨htable, hs, (sweep .term t pids).taken.length, _, ?_, hcount, fun hd => ?_⟩
    · rw [count_terminate, h1, h2]
      rfl
    · exact length_filter_le_length_taken h (hn hd)

/-- Terminating twice is terminating once. Where nobody refuses, a second termination of the same kind
changes no row of the table, lists nobody whom the first one did not list, and counts no more
processes. -/
theorem twice_is_once (h : t.Compliant) (pid : Pid) (limit : Number) :
    (∀ withGroup,
      let u := (terminateTree t pid limit withGroup).table
      (terminateTree t pid limit withGroup).RepeatedBy (terminateTree u pid limit withGroup) t
        (collected t pid withGroup) (collected u pid withGroup)) ∧
    let u := (terminateGroup t pid limit).table
    (terminateGroup t pid limit).RepeatedBy (terminateGroup u pid limit) t (t.members pid)
      (u.members pid) := by
  constructor
  · intro withGroup u
    have hu : Signalled t u := signalled_terminateAny t _ limit _
    have hgroup : ledGroup? u pid withGroup = ledGroup? t pid withGroup := by
      rw [ledGroup?, ledGroup?, hu.supportsGroups_eq]
    rw [terminateTree, terminateTree, hgroup]
    apply repeatedBy_terminateAny
    · exact count_terminateAny_isSome_iff.mpr (unrefused_of_compliant h _)
    · exact subset_collected hu pid withGroup
    · exact fun hn => subperm_collected hu hn pid withGroup
  · intro u
    have hu : Signalled t u := signalled_terminateAny t _ limit _
    apply repeatedBy_terminateAny
    · exact count_terminateAny_isSome_iff.mpr (unrefused_of_compliant h _)
    · exact fun p hp => (hu.members_sublist pid).subset hp
    · exact fun _ => (hu.members_sublist pid).subperm

/-- A leader that heeds the first signal, two descendants that outlive every signal, and a member of the
group that is not known to be one, where no group may be signalled. -/
def holdouts : ProcessTable where
  rows :=
    [⟨1, 1, [2, 3], false, .told, .dies, .dies, none⟩,
      ⟨2, 1, [], false, .told, .survives, .survives, none⟩,
      ⟨3, 1, [], false, .told, .gone, .gone, none⟩,
      ⟨4, 1, [], false, .denied, .survives, .dies, none⟩]
  groupSignals := .denied

/-- The second time the leader is gone, so the group is listed in place of the descendants. -/
theorem twice_is_once_holdouts :
    let first := terminateTree holdouts 1 (.int 3) true
    let second := terminateTree first.table 1 (.int 3) true
    holdouts.Compliant ∧ (holdouts.rows.map (·.pid)).Nodup ∧
      second.table = first.table ∧ first.table.living = [2, 3, 4] ∧
      (∀ p ∈ collected first.table 1 true, p ∈ collected holdouts 1 true) ∧
      ∃ n m, first.count = some n ∧ second.count = some m ∧ m ≤ n := by
  intro first second
  have hc : holdouts.Compliant := by decide
  have hn : (holdouts.rows.map (·.pid)).Nodup := by decide
  obtain ⟨htable, hsubset, n, m, hfirst, hsecond, hle⟩ := (twice_is_once hc 1 (.int 3)).1 true
  exact ⟨hc, hn, htable, by decide, hsubset, n, m, hfirst, hsecond, hle hn⟩

end Termination
end Typeset
