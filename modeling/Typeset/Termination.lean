import Typeset.ProcessTable

/-!
Termination of processes: each gets the first signal, those that are still there after a wait get
the second one. Descendants come before the process they descend from, so that none of them is left
to another parent. A process that may not be signalled ends the attempt.
-/

namespace Typeset.Termination

/-- What is done to processes, in the order in which it is done. -/
inductive Event
  | signal (s : Signal) (pid : Pid)
  | groupSignal (s : Signal) (group : Pid)
  | wait (pids : List Pid) (limit : Number)
  deriving DecidableEq

structure Sweep where
  table : ProcessTable
  events : List Event
  taken : List Pid
  denied : Bool
  deriving DecidableEq

/-- Sends a signal to each process. One that is not there is passed over; a refusal ends the sweep. -/
def sweep (s : Signal) (t : ProcessTable) : List Pid → Sweep
  | [] => ⟨t, [], [], false⟩
  | pid :: rest =>
    match t.reception s pid with
    | .taken =>
      let next := sweep s (t.signal s pid) rest
      { next with events := .signal s pid :: next.events, taken := pid :: next.taken }
    | .noProcess =>
      let next := sweep s t rest
      { next with events := .signal s pid :: next.events }
    | .denied => ⟨t, [.signal s pid], [], true⟩

/-- A termination: the processes afterwards, what was done, and how many took the first signal;
no number if the attempt ended early. -/
structure Outcome where
  table : ProcessTable
  events : List Event
  count : Option Nat
  deriving DecidableEq

def groupEvents (s : Signal) (group : Option Pid) : List Event :=
  group.toList.map (.groupSignal s)

def signalGroup? (t : ProcessTable) (s : Signal) (group : Option Pid) : ProcessTable :=
  group.elim t (t.signalGroup s)

/-- The second half: the processes that outlived the wait are killed. -/
def escalate (t : ProcessTable) (outlived : List Pid) (limit : Number) (group : Option Pid)
    (count : Nat) : Outcome :=
  let killed := sweep .kill t outlived
  if killed.denied then ⟨killed.table, killed.events, none⟩
  else ⟨signalGroup? killed.table .kill group,
    killed.events ++ groupEvents .kill group ++
      (if outlived = [] then [] else [.wait outlived limit]),
    some count⟩

/-- The table after the first signal, which processes get one by one and with their group. -/
def asked (t : ProcessTable) (pids : List Pid) (group : Option Pid) : ProcessTable :=
  signalGroup? (sweep .term t pids).table .term group

/-- The processes that took the first signal and outlived it. -/
def outlived (t : ProcessTable) (pids : List Pid) (group : Option Pid) : List Pid :=
  (sweep .term t pids).taken.filter (asked t pids group).isAlive

/-- Ends processes, and a group with them if one is given. -/
def terminate (t : ProcessTable) (pids : List Pid) (limit : Number) (group : Option Pid) :
    Outcome :=
  let first := sweep .term t pids
  if first.denied then ⟨first.table, first.events, none⟩
  else
    let rest := escalate (asked t pids group) (outlived t pids group) limit group first.taken.length
    { rest with events :=
        first.events ++ groupEvents .term group ++ .wait first.taken limit :: rest.events }

def terminateAny (t : ProcessTable) (pids : List Pid) (limit : Number) (group : Option Pid) :
    Outcome :=
  if pids = [] then ⟨t, [], some 0⟩ else terminate t pids limit group

/-- The group that is ended along with a process that leads it. -/
def ledGroup? (t : ProcessTable) (pid : Pid) (withGroup : Bool) : Option Pid :=
  if withGroup ∧ t.supportsGroups then some pid else none

/-- The processes that are ended along with a process: its descendants, and the other members of the
group that it leads. -/
def collected (t : ProcessTable) (pid : Pid) (withGroup : Bool) : List Pid :=
  t.tree pid ++ ((ledGroup? t pid withGroup).elim [] t.members).filter (· ∉ t.tree pid)

/-- Ends a process with its descendants, and with the group that it leads. -/
def terminateTree (t : ProcessTable) (pid : Pid) (limit : Number) (withGroup : Bool) : Outcome :=
  terminateAny t (collected t pid withGroup) limit (ledGroup? t pid withGroup)

def terminateGroup (t : ProcessTable) (group : Pid) (limit : Number) : Outcome :=
  terminateAny t (t.members group) limit (some group)

@[simp] theorem sweep_nil (s : Signal) (t : ProcessTable) : sweep s t [] = ⟨t, [], [], false⟩ := rfl

@[simp] theorem terminateAny_nil (t : ProcessTable) (limit : Number) (group : Option Pid) :
    terminateAny t [] limit group = ⟨t, [], some 0⟩ := rfl

theorem ledGroup?_eq_some_iff {t : ProcessTable} {pid g : Pid} {withGroup : Bool} :
    ledGroup? t pid withGroup = some g ↔
      withGroup = true ∧ t.supportsGroups = true ∧ g = pid := by
  by_cases h : withGroup = true ∧ t.supportsGroups = true
  · simp [ledGroup?, h, eq_comm]
  · simp only [ledGroup?, if_neg h]
    simp_all

theorem mem_collected_iff {t : ProcessTable} {p pid : Pid} {withGroup : Bool} :
    p ∈ collected t pid withGroup ↔
      p ∈ t.tree pid ∨ withGroup = true ∧ p ∈ t.members pid := by
  have hg : p ∈ (ledGroup? t pid withGroup).elim [] t.members ↔
      withGroup = true ∧ p ∈ t.members pid := by
    cases hl : ledGroup? t pid withGroup with
    | some g =>
      obtain ⟨hw, -, rfl⟩ := ledGroup?_eq_some_iff.mp hl
      simp [hw]
    | none =>
      suffices h : withGroup = true → p ∉ t.members pid by simpa using h
      intro hw hm
      have hs := (ProcessTable.mem_members_iff.mp hm).1
      simp [ledGroup?, hw, hs] at hl
  rw [collected, List.mem_append, List.mem_filter, hg]
  by_cases hp : p ∈ t.tree pid <;> simp [hp]

theorem sublist_taken_sweep (s : Signal) (t : ProcessTable) (pids : List Pid) :
    (sweep s t pids).taken.Sublist pids := by
  induction pids generalizing t with
  | nil => exact List.Sublist.refl _
  | cons pid pids ih =>
    simp only [sweep]
    split
    · exact (ih _).cons_cons pid
    · exact (ih t).cons pid
    · exact List.nil_sublist _

end Typeset.Termination
