import Typeset.Termination

/-!
Sweeps, seen from a single process. What a signal does to one process changes nothing about the
others, and a process that refuses a signal is not changed by it. So a refusal can be read off the
processes before the sweep, and a sweep without one strikes exactly the processes of its list.
-/

namespace Typeset.Termination

variable {s : Signal} {t : ProcessTable} {pids : List Pid}

theorem reception_signal (t : ProcessTable) (s u : Signal) (target pid : Pid) :
    (t.signal s target).reception u pid =
      if pid = target then ((t.row? pid).map (·.struck s)).elim .noProcess (·.reception u)
      else t.reception u pid := by
  rw [ProcessTable.reception, ProcessTable.row?_signal]
  split <;> simp [ProcessTable.reception]

/-- Who refuses a signal goes on refusing it, whoever else gets it. -/
theorem reception_signal_eq_denied_iff (t : ProcessTable) (s : Signal) (target pid : Pid) :
    (t.signal s target).reception s pid = .denied ↔ t.reception s pid = .denied := by
  rw [reception_signal]
  split
  · cases h : t.row? pid with
    | none => simp [ProcessTable.reception, h]
    | some r =>
      simp only [ProcessTable.reception, h, Option.map_some, Option.elim_some,
        ProcessRow.reception_eq_denied_iff, ProcessRow.isAlive_struck, ProcessRow.reaction_struck]
      cases hr : r.reaction s <;> simp
  · rfl

theorem reception_eq_taken_of_signal {target pid : Pid}
    (h : (t.signal s target).reception s pid = .taken) : t.reception s pid = .taken := by
  rw [reception_signal] at h
  split at h
  · cases hr : t.row? pid with
    | none => simp [hr] at h
    | some r =>
      simp only [hr, Option.map_some, Option.elim_some, ProcessRow.reception_eq_taken_iff,
        ProcessRow.isAlive_struck, ProcessRow.reaction_struck, Bool.and_eq_true] at h
      rw [ProcessTable.reception_of_row? hr, ProcessRow.reception_eq_taken_iff]
      exact ⟨h.1.1, h.2⟩
  · exact h

theorem denied_sweep_iff (s : Signal) (t : ProcessTable) (pids : List Pid) :
    (sweep s t pids).denied = true ↔ ∃ p ∈ pids, t.reception s p = .denied := by
  induction pids generalizing t with
  | nil => simp
  | cons pid pids ih =>
    rw [sweep]
    cases h : t.reception s pid with
    | taken => simp [ih, h, reception_signal_eq_denied_iff]
    | noProcess => simp [ih, h]
    | denied => simp [h]

theorem mem_taken_sweep_iff (h : (sweep s t pids).denied = false) (p : Pid) :
    p ∈ (sweep s t pids).taken ↔ p ∈ pids ∧ t.reception s p = .taken := by
  induction pids generalizing t with
  | nil => simp
  | cons pid pids ih =>
    rw [sweep] at h ⊢
    cases hr : t.reception s pid with
    | taken =>
      simp only [hr] at h ⊢
      rw [List.mem_cons, ih h, List.mem_cons]
      constructor
      · rintro (rfl | ⟨hp, ht⟩)
        · exact ⟨.inl rfl, hr⟩
        · exact ⟨.inr hp, reception_eq_taken_of_signal ht⟩
      · -- one that is listed twice may be gone the second time
        rintro ⟨hp, ht⟩
        by_cases he : p = pid
        · exact .inl he
        · exact .inr ⟨hp.resolve_left he, by rw [reception_signal, if_neg he]; exact ht⟩
    | noProcess =>
      simp only [hr] at h ⊢
      rw [ih h, List.mem_cons]
      constructor
      · rintro ⟨hp, ht⟩
        exact ⟨.inr hp, ht⟩
      · rintro ⟨rfl | hp, ht⟩
        · simp [hr] at ht
        · exact ⟨hp, ht⟩
    | denied => simp [hr] at h

/-- A sweep that nobody refuses strikes the processes of its list, and them alone. -/
theorem row?_sweep (h : (sweep s t pids).denied = false) (p : Pid) :
    (sweep s t pids).table.row? p =
      (t.row? p).map fun r => if p ∈ pids then r.struck s else r := by
  induction pids generalizing t with
  | nil => simp
  | cons pid pids ih =>
    rw [sweep] at h ⊢
    cases hr : t.reception s pid with
    | taken =>
      simp only [hr] at h ⊢
      rw [ih h, ProcessTable.row?_signal, Option.map_map]
      congr 1
      funext r
      by_cases he : p = pid <;> by_cases hp : p ∈ pids <;> simp [he, hp]
    | noProcess =>
      simp only [hr] at h ⊢
      rw [ih h]
      cases ht : t.row? p with
      | none => rfl
      | some r =>
        by_cases he : p = pid
        · subst he
          rw [ProcessTable.reception_of_row? ht] at hr
          simp [ProcessRow.struck_of_reception_ne (r := r) (s := s) (by simp [hr])]
        · simp [he]
    | denied => simp [hr] at h

/-- The sweep ends with the first process that refuses. -/
theorem events_sweep_of_refusal {before : List Pid} {p : Pid}
    (hb : ∀ q ∈ before, t.reception s q ≠ .denied) (hp : t.reception s p = .denied)
    (after : List Pid) :
    (sweep s t (before ++ p :: after)).events = (before ++ [p]).map (.signal s) := by
  induction before generalizing t with
  | nil => simp [sweep, hp]
  | cons q before ih =>
    have hq := hb q List.mem_cons_self
    have hb' : ∀ q ∈ before, t.reception s q ≠ .denied :=
      fun u hu => hb u (List.mem_cons_of_mem q hu)
    rw [List.cons_append, sweep]
    cases hr : t.reception s q with
    | taken =>
      have hb'' : ∀ u ∈ before, (t.signal s q).reception s u ≠ .denied := fun u hu =>
        mt (reception_signal_eq_denied_iff t s q u).mp (hb' u hu)
      simp [ih hb'' ((reception_signal_eq_denied_iff t s q p).mpr hp)]
    | noProcess => simp [ih hb' hp]
    | denied => exact absurd hr hq

theorem groupSignals_sweep (s : Signal) (t : ProcessTable) (pids : List Pid) :
    (sweep s t pids).table.groupSignals = t.groupSignals := by
  induction pids generalizing t with
  | nil => rfl
  | cons pid pids ih =>
    rw [sweep]
    cases t.reception s pid with
    | taken => exact ih _
    | noProcess => exact ih _
    | denied => rfl

end Typeset.Termination
