import Typeset.Number

/-!
Process tables. A row says how a process answers to questions and to signals; a process that has
ended keeps its row, with the signal that ended it. Signals change nothing but deaths.
-/

namespace Typeset

/-- The number of a process, or of a group of processes. -/
abbrev Pid := Int

/-- The two signals that end a process: the first may be ignored. -/
inductive Signal
  | term
  | kill
  deriving DecidableEq

def Signal.number : Signal → Nat
  | .term => 15
  | .kill => 9

/-- How a process answers to a signal. -/
inductive Reaction
  | dies
  | survives
  | gone
  | denied
  deriving DecidableEq

inductive Reception
  | taken
  | noProcess
  | denied
  deriving DecidableEq

/-- What the system says when it is asked for the group of a process. -/
inductive GroupAnswer
  | told
  | gone
  | denied
  deriving DecidableEq

/-- A process. Its descendants are listed parents first. -/
structure ProcessRow where
  pid : Pid
  group : Pid
  descendants : List Pid
  descendantsGone : Bool
  groupAnswer : GroupAnswer
  onTerm : Reaction
  onKill : Reaction
  death : Option Signal
  deriving DecidableEq

namespace ProcessRow

def isAlive (r : ProcessRow) : Bool := r.death.isNone

def reaction (r : ProcessRow) : Signal → Reaction
  | .term => r.onTerm
  | .kill => r.onKill

def reception (r : ProcessRow) (s : Signal) : Reception :=
  if r.isAlive then
    match r.reaction s with
    | .gone => .noProcess
    | .denied => .denied
    | _ => .taken
  else .noProcess

def struck (r : ProcessRow) (s : Signal) : ProcessRow :=
  if r.isAlive ∧ r.reaction s = .dies then { r with death := some s } else r

/-- A signal changes nothing but whether the process is there. -/
theorem struck_eq (r : ProcessRow) (s : Signal) :
    r.struck s = { r with death := (r.struck s).death } := by
  unfold struck; split <;> rfl

@[simp] theorem pid_struck (r : ProcessRow) (s : Signal) : (r.struck s).pid = r.pid := by
  rw [struck_eq]

@[simp] theorem group_struck (r : ProcessRow) (s : Signal) : (r.struck s).group = r.group := by
  rw [struck_eq]

@[simp] theorem reaction_struck (r : ProcessRow) (s u : Signal) :
    (r.struck s).reaction u = r.reaction u := by
  rw [struck_eq]; rfl

theorem isAlive_struck (r : ProcessRow) (s : Signal) :
    (r.struck s).isAlive = (r.isAlive && r.reaction s ≠ .dies) := by
  unfold struck
  split
  · simp_all [isAlive]
  · cases h : r.isAlive <;> simp_all

theorem struck_of_dead {r : ProcessRow} (h : r.isAlive = false) (s : Signal) : r.struck s = r := by
  simp [struck, h]

theorem struck_of_ne {r : ProcessRow} {s : Signal} (h : r.reaction s ≠ .dies) : r.struck s = r := by
  simp [struck, h]

@[simp] theorem struck_struck (r : ProcessRow) (s : Signal) :
    (r.struck s).struck s = r.struck s := by
  by_cases h : r.reaction s = .dies
  · exact struck_of_dead (by simp [isAlive_struck, h]) s
  · rw [struck_of_ne (by simpa using h)]

theorem reception_eq_denied_iff (r : ProcessRow) (s : Signal) :
    r.reception s = .denied ↔ r.isAlive = true ∧ r.reaction s = .denied := by
  unfold reception
  split
  · cases h : r.reaction s <;> simp_all
  · simp_all

theorem struck_of_reception_ne {r : ProcessRow} {s : Signal} (h : r.reception s ≠ .taken) :
    r.struck s = r := by
  cases ha : r.isAlive with
  | false => exact struck_of_dead ha s
  | true =>
    apply struck_of_ne
    intro hd
    simp [reception, ha, hd] at h

theorem reception_eq_taken_iff (r : ProcessRow) (s : Signal) :
    r.reception s = .taken ↔
      r.isAlive = true ∧ (r.reaction s = .dies ∨ r.reaction s = .survives) := by
  unfold reception
  split
  · cases h : r.reaction s <;> simp_all
  · simp_all

end ProcessRow

/-- What the system does with a signal to a whole group. -/
inductive GroupSignals
  | unsupported
  | denied
  | permitted
  deriving DecidableEq

structure ProcessTable where
  rows : List ProcessRow
  groupSignals : GroupSignals
  deriving DecidableEq

namespace ProcessTable

def empty : ProcessTable := ⟨[], .permitted⟩

def row? (t : ProcessTable) (pid : Pid) : Option ProcessRow := t.rows.find? (·.pid = pid)

def living? (t : ProcessTable) (pid : Pid) : Option ProcessRow :=
  (t.row? pid).filter (·.isAlive)

def isAlive (t : ProcessTable) (pid : Pid) : Bool := (t.living? pid).isSome

def living (t : ProcessTable) : List Pid := (t.rows.filter (·.isAlive)).map (·.pid)

def hasGroup (t : ProcessTable) (group : Pid) : Bool :=
  t.rows.any fun r => r.isAlive && r.group = group

def supportsGroups (t : ProcessTable) : Bool := t.groupSignals ≠ .unsupported

def tree (t : ProcessTable) (pid : Pid) : List Pid :=
  match t.living? pid with
  | none => []
  | some r => (if r.descendantsGone then [] else r.descendants.reverse) ++ [pid]

def members (t : ProcessTable) (group : Pid) : List Pid :=
  if t.supportsGroups then
    (t.rows.filter fun r => r.isAlive && r.groupAnswer = .told && r.group = group).map (·.pid)
  else []

def reception (t : ProcessTable) (s : Signal) (pid : Pid) : Reception :=
  (t.row? pid).elim .noProcess (·.reception s)

def signal (t : ProcessTable) (s : Signal) (pid : Pid) : ProcessTable :=
  { t with rows := t.rows.map fun r => if r.pid = pid then r.struck s else r }

def signalGroup (t : ProcessTable) (s : Signal) (group : Pid) : ProcessTable :=
  if t.groupSignals = .permitted then
    { t with rows := t.rows.map fun r => if r.group = group then r.struck s else r }
  else t

@[simp] theorem groupSignals_signal (t : ProcessTable) (s : Signal) (pid : Pid) :
    (t.signal s pid).groupSignals = t.groupSignals := rfl

@[simp] theorem groupSignals_signalGroup (t : ProcessTable) (s : Signal) (group : Pid) :
    (t.signalGroup s group).groupSignals = t.groupSignals := by
  unfold signalGroup; split <;> rfl

theorem signalGroup_of_not_permitted {t : ProcessTable} (h : t.groupSignals ≠ .permitted)
    (s : Signal) (group : Pid) : t.signalGroup s group = t := by
  simp [signalGroup, h]

theorem pid_of_row? {t : ProcessTable} {pid : Pid} {r : ProcessRow} (h : t.row? pid = some r) :
    r.pid = pid := by
  simpa using List.find?_some h

theorem mem_of_row? {t : ProcessTable} {pid : Pid} {r : ProcessRow} (h : t.row? pid = some r) :
    r ∈ t.rows := List.mem_of_find?_eq_some h

theorem isAlive_of_row? {t : ProcessTable} {pid : Pid} {r : ProcessRow}
    (h : t.row? pid = some r) : t.isAlive pid = r.isAlive := by
  cases hr : r.isAlive <;> simp [isAlive, living?, h, hr]

theorem reception_of_row? {t : ProcessTable} {pid : Pid} {r : ProcessRow}
    (h : t.row? pid = some r) (s : Signal) : t.reception s pid = r.reception s := by
  simp [reception, h]

theorem mem_tree_of_row? {t : ProcessTable} {pid : Pid} {r : ProcessRow}
    (h : t.row? pid = some r) (ha : r.isAlive = true) : pid ∈ t.tree pid := by
  have hl : t.living? pid = some r := by simp [living?, h, ha]
  simp [tree, hl]

theorem mem_members_iff {t : ProcessTable} {p group : Pid} :
    p ∈ t.members group ↔ t.supportsGroups = true ∧
      ∃ r ∈ t.rows, r.pid = p ∧ r.isAlive = true ∧ r.groupAnswer = .told ∧ r.group = group := by
  unfold members
  split
  · rename_i h
    simp only [h, true_and, List.mem_map, List.mem_filter, Bool.and_eq_true, decide_eq_true_eq]
    exact exists_congr fun r => ⟨fun ⟨⟨hm, ⟨ha, ht⟩, hg⟩, hp⟩ => ⟨hm, hp, ha, ht, hg⟩,
      fun ⟨hm, hp, ha, ht, hg⟩ => ⟨⟨hm, ⟨ha, ht⟩, hg⟩, hp⟩⟩
  · rename_i h
    simp [h]

theorem members_of_not_supportsGroups {t : ProcessTable} (h : t.supportsGroups = false)
    (group : Pid) : t.members group = [] := by
  simp [members, h]

/-- A change that leaves every process its number changes what is found under a number. -/
theorem find?_map_of_pid {f : ProcessRow → ProcessRow} (h : ∀ r, (f r).pid = r.pid) (pid : Pid)
    (rows : List ProcessRow) :
    (rows.map f).find? (·.pid = pid) = (rows.find? (·.pid = pid)).map f := by
  rw [List.find?_map]
  congr 2
  funext r
  simp [h]

theorem row?_signal (t : ProcessTable) (s : Signal) (target pid : Pid) :
    (t.signal s target).row? pid =
      (t.row? pid).map fun r => if pid = target then r.struck s else r := by
  have h := find?_map_of_pid (f := fun r => if r.pid = target then r.struck s else r)
    (by intro r; split <;> simp) pid t.rows
  rw [row?, signal, h]
  cases hr : t.rows.find? (·.pid = pid) with
  | none => simp [row?, hr]
  | some r => simp [row?, hr, pid_of_row? hr]

theorem row?_signalGroup {t : ProcessTable} (h : t.groupSignals = .permitted) (s : Signal)
    (group pid : Pid) :
    (t.signalGroup s group).row? pid =
      (t.row? pid).map fun r => if r.group = group then r.struck s else r := by
  rw [row?, signalGroup, if_pos h]
  exact find?_map_of_pid (by intro r; split <;> simp) pid t.rows

end ProcessTable
end Typeset
