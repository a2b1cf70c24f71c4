import Mathlib.Data.List.Nodup
import Typeset.Proofs.Termination.Survivors

/-!
# The order of a termination

A termination that comes to its end follows one protocol. All processes of its list are asked to end,
one by one and then with their group; they are waited for; those that the wait finds alive are killed,
and their group with them. Which processes the waits are for can be told from the table before.
-/

namespace Typeset

namespace ProcessTable

def descendants (t : ProcessTable) (pid : Pid) : List Pid :=
  (t.living? pid).elim [] fun r => if r.descendantsGone then [] else r.descendants

/-- Every process has one row, and `root` lists each of its descendants once and never itself. -/
structure ListsOnce (t : ProcessTable) (root : Pid) : Prop where
  nodup_pids : (t.rows.map (·.pid)).Nodup
  nodup_descendants : (t.descendants root).Nodup
  root_notMem : root ∉ t.descendants root

variable {t : ProcessTable} {pid : Pid}

theorem tree_eq (t : ProcessTable) (pid : Pid) :
    t.tree pid = (t.descendants pid).reverse ++ if t.isAlive pid then [pid] else [] := by
  cases h : t.living? pid with
  | none => simp [tree, descendants, isAlive, h]
  | some r => cases hg : r.descendantsGone <;> simp [tree, descendants, isAlive, h, hg]

theorem isAlive_of_mem_descendants {p : Pid} (h : p ∈ t.descendants pid) :
    t.isAlive pid = true := by
  cases hl : t.living? pid with
  | none => simp [descendants, hl] at h
  | some r => simp [isAlive, hl]

theorem members_sublist (t : ProcessTable) (group : Pid) :
    (t.members group).Sublist (t.rows.map (·.pid)) := by
  unfold members
  split
  · exact List.filter_sublist.map _
  · exact List.nil_sublist _

namespace ListsOnce
variable (h : t.ListsOnce pid)
include h

theorem nodup_members (group : Pid) : (t.members group).Nodup :=
  h.nodup_pids.sublist (t.members_sublist group)

theorem nodup_tree : (t.tree pid).Nodup := by
  rw [tree_eq]
  split
  · refine (List.nodup_reverse.mpr h.nodup_descendants).append (List.nodup_singleton pid) ?_
    rw [List.disjoint_singleton]
    exact fun hm => h.root_notMem (List.mem_reverse.mp hm)
  · simpa using h.nodup_descendants

end ListsOnce
end ProcessTable

namespace Termination

variable {s : Signal} {t : ProcessTable} {pids : List Pid} {group : Option Pid} {limit : Number}
variable {pid : Pid}

theorem events_sweep (h : (sweep s t pids).denied = false) :
    (sweep s t pids).events = pids.map (.signal s) := by
  induction pids generalizing t with
  | nil => rfl
  | cons p pids ih =>
    rw [sweep] at h ⊢
    cases hr : t.reception s p with
    | taken =>
      simp only [hr] at h ⊢
      rw [ih h, List.map_cons]
    | noProcess =>
      simp only [hr] at h ⊢
      rw [ih h, List.map_cons]
    | denied => simp [hr] at h

/-- What a process makes of the signal in its turn is what it made of it before the sweep, since nobody
gets it twice. -/
theorem taken_sweep (hn : pids.Nodup) (h : (sweep s t pids).denied = false) :
    (sweep s t pids).taken = pids.filter fun p => t.reception s p = .taken := by
  induction pids generalizing t with
  | nil => rfl
  | cons p pids ih =>
    obtain ⟨hp, hn⟩ := List.nodup_cons.mp hn
    rw [sweep] at h ⊢
    cases hr : t.reception s p with
    | taken =>
      simp only [hr] at h ⊢
      have hrest : ∀ q ∈ pids, (t.signal s p).reception s q = t.reception s q := by
        intro q hq
        have hne : q ≠ p := fun he => hp (he ▸ hq)
        rw [reception_signal, if_neg hne]
      rw [ih hn h, List.filter_cons_of_pos (by simp [hr])]
      congr 1
      exact List.filter_congr fun q hq => by rw [hrest q hq]
    | noProcess =>
      simp only [hr] at h ⊢
      rw [ih hn h, List.filter_cons_of_neg (by simp [hr])]
    | denied => simp [hr] at h

/-- The processes that take the first signal. -/
def took (t : ProcessTable) (pids : List Pid) : List Pid :=
  pids.filter fun p => t.reception .term p = .taken

/-- Those of them that a wait finds alive once all have been asked. -/
def foundAlive (t : ProcessTable) (pids : List Pid) (group : Option Pid) : List Pid :=
  (took t pids).filter (asked t pids group).isAlive

def asking (pids : List Pid) (group : Option Pid) : List Event :=
  pids.map (.signal .term) ++ groupEvents .term group

def killing (alive : List Pid) (group : Option Pid) (limit : Number) : List Event :=
  alive.map (.signal .kill) ++ groupEvents .kill group ++
    if alive = [] then [] else [.wait alive limit]

def Event.kills : Event → Bool
  | .signal .kill _ | .groupSignal .kill _ => true
  | _ => false

theorem kills_of_mem_asking {e : Event} (h : e ∈ asking pids group) : e.kills = false := by
  rcases List.mem_append.mp h with h | h
  · obtain ⟨p, -, rfl⟩ := List.mem_map.mp h
    rfl
  · obtain ⟨g, -, rfl⟩ := List.mem_map.mp h
    rfl

/-- A kill that is neither before a step nor this step itself comes after it. -/
theorem mem_of_kills {front rest before after : List Event} {a e : Event}
    (h : front ++ a :: rest = before ++ e :: after) (hfront : ∀ x ∈ front, x.kills = false)
    (ha : a.kills = false) (he : e.kills = true) : a ∈ before := by
  have hne : a ≠ e := by
    rintro rfl
    rw [ha] at he
    cases he
  rcases List.append_eq_append_iff.mp h with ⟨l, rfl, hl⟩ | ⟨l, hl, hrest⟩
  · cases l with
    | nil => exact absurd (List.cons.inj hl).1 hne
    | cons b l =>
      obtain ⟨rfl, -⟩ := List.cons.inj hl
      simp
  · cases l with
    | nil => exact absurd (List.cons.inj hrest).1.symm hne
    | cons b l =>
      obtain ⟨rfl, -⟩ := List.cons.inj hrest
      have hkills := hfront e (by simp [hl])
      rw [hkills] at he
      cases he

/-- The protocol of a termination, of some processes and of a group with them, that comes to its end. -/
structure Outcome.Escalates (o : Outcome) (t : ProcessTable) (pids : List Pid)
    (group : Option Pid) (limit : Number) : Prop where
  of_nil : pids = [] → o = ⟨t, [], some 0⟩
  events_eq : pids ≠ [] → o.count.isSome = true →
    o.events = asking pids group ++ .wait (took t pids) limit ::
      killing (foundAlive t pids group) group limit
  count_eq : o.count.isSome = true → o.count = some (took t pids).length
  wait_mem : o.count.isSome = true → ∀ before e after, o.events = before ++ e :: after →
    e.kills = true → .wait (took t pids) limit ∈ before

theorem events_terminate (hn : pids.Nodup) (h : (terminate t pids limit group).count.isSome = true) :
    (terminate t pids limit group).events = asking pids group ++ .wait (took t pids) limit ::
      killing (foundAlive t pids group) group limit := by
  obtain ⟨h1, h2⟩ := sweeps_not_denied h
  have ht := taken_sweep hn h1
  have ho : outlived t pids group = foundAlive t pids group := by rw [outlived, ht, foundAlive, took]
  rw [ho] at h2
  simp only [terminate, escalate, h1, h2, Bool.false_eq_true, if_false, events_sweep h1,
    events_sweep h2, ht, ho]
  rfl

theorem count_eq_of_terminate (hn : pids.Nodup)
    (h : (terminate t pids limit group).count.isSome = true) :
    (terminate t pids limit group).count = some (took t pids).length := by
  obtain ⟨h1, h2⟩ := sweeps_not_denied h
  simp [count_terminate, h1, h2, taken_sweep hn h1, took]

theorem escalates_terminateAny (hn : pids.Nodup) (limit : Number) (group : Option Pid) :
    (terminateAny t pids limit group).Escalates t pids group limit := by
  by_cases hp : pids = []
  · subst hp
    refine ⟨fun _ => rfl, fun hne => absurd rfl hne, fun _ => rfl, fun _ before e after he => ?_⟩
    cases before <;> cases he
  · rw [terminateAny, if_neg hp]
    refine ⟨fun he => absurd he hp, fun _ => events_terminate hn, count_eq_of_terminate hn, ?_⟩
    intro hc before e after he hk
    rw [events_terminate hn hc] at he
    exact mem_of_kills he (fun _ hx => kills_of_mem_asking hx) rfl hk

theorem collected_eq (t : ProcessTable) (pid : Pid) (withGroup : Bool) :
    collected t pid withGroup =
      t.tree pid ++ if withGroup then (t.members pid).filter (· ∉ t.tree pid) else [] := by
  cases withGroup with
  | false => simp [collected, ledGroup?]
  | true =>
    cases hs : t.supportsGroups with
    | true => simp [collected, ledGroup?, hs]
    | false => simp [collected, ledGroup?, hs, ProcessTable.members_of_not_supportsGroups hs]

theorem nodup_collected (h : t.ListsOnce pid) (withGroup : Bool) :
    (collected t pid withGroup).Nodup := by
  rw [collected_eq]
  split
  · refine h.nodup_tree.append ((h.nodup_members pid).filter _) ?_
    intro p hp hm
    simp [hp] at hm
  · rw [List.append_nil]
    exact h.nodup_tree

/-- Descendants are listed after those they descend from, so here they come before them. -/
theorem sublist_collected {a b : Pid} (h : [a, b].Sublist (t.descendants pid)) (withGroup : Bool) :
    [b, a, pid].Sublist (collected t pid withGroup) := by
  have ha : t.isAlive pid = true :=
    ProcessTable.isAlive_of_mem_descendants (h.subset List.mem_cons_self)
  have htree : [b, a, pid].Sublist (t.tree pid) := by
    rw [ProcessTable.tree_eq, if_pos ha]
    exact h.reverse.append_right [pid]
  rw [collected_eq]
  exact htree.trans (List.sublist_append_left _ _)

/-- A termination that comes to its end follows its protocol. It lists every process once: descendants
before those they descend from, then the root, then the others of its group in the order of a scan. All
of them are asked to end in this order, and then the group. The first wait is for those that took the
signal, and their number is the count. Those that it finds alive are killed, then the group is, and
if there were any they are waited for again. Nobody is killed before the first wait. -/
theorem escalation_protocol (h : t.ListsOnce pid) (limit : Number) :
    (∀ withGroup,
      let pids := (t.descendants pid).reverse ++ (if t.isAlive pid then [pid] else []) ++
        if withGroup then (t.members pid).filter (· ∉ t.tree pid) else []
      pids.Nodup ∧ (∀ a b, [a, b].Sublist (t.descendants pid) → [b, a, pid].Sublist pids) ∧
      (terminateTree t pid limit withGroup).Escalates t pids (ledGroup? t pid withGroup) limit) ∧
    (t.members pid).Nodup ∧ (t.members pid).Sublist (t.rows.map (·.pid)) ∧
    (terminateGroup t pid limit).Escalates t (t.members pid) (some pid) limit := by
  refine ⟨fun withGroup => ?_, h.nodup_members pid, t.members_sublist pid,
    escalates_terminateAny (h.nodup_members pid) limit (some pid)⟩
  rw [← t.tree_eq pid, ← collected_eq]
  exact ⟨nodup_collected h withGroup, fun a b hab => sublist_collected hab withGroup,
    escalates_terminateAny (nodup_collected h withGroup) limit _⟩

/-- The leader and the runaway outlive the first signal, and the orphan is never there for it. -/
theorem escalation_protocol_family :
    family.ListsOnce 1 ∧
      (terminateTree family 1 (.int 3) true).events =
        [.signal .term 3, .signal .term 2, .signal .term 1, .signal .term 4, .groupSignal .term 1,
          .wait [3, 2, 1] (.int 3), .signal .kill 3, .signal .kill 1, .groupSignal .kill 1,
          .wait [3, 1] (.int 3)] ∧
      (terminateTree family 1 (.int 3) true).count = some 3 := by
  have h : family.ListsOnce 1 := ⟨by decide, by decide, by decide⟩
  obtain ⟨-, -, hall⟩ := (escalation_protocol h (.int 3)).1 true
  have hc : (terminateTree family 1 (.int 3) true).count.isSome = true :=
    count_terminateAny_isSome_iff.mpr (unrefused_of_compliant (by decide) _)
  refine ⟨h, ?_, ?_⟩
  · rw [hall.events_eq (by decide) hc]
    decide
  · rw [hall.count_eq hc]
    decide

end Termination
end Typeset
