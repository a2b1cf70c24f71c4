import Typeset.Proofs.Runner.Listening
import Typeset.Proofs.Termination.Survivors
import Typeset.Runner

/-!
# Interrupted runs

Whatever interrupts a run, a cancellation after any number of pieces or a listener that fails at any
call, the run ends in one way: the child is stopped and awaited, and then the cause is raised. How the
child is stopped depends on whether it has exited, and on nothing else. The child has ended by then, so
a wait that depends on nothing but the child is answered.
-/

namespace Typeset

/-- A child leads its own group, and a kill ends it. One that has exited may have no row. -/
structure Child.Leads (c : Child) (t : ProcessTable) : Prop where
  group_eq : ∀ r, t.row? c.pid = some r → r.group = c.pid
  onKill_eq : ∀ r, t.row? c.pid = some r → r.onKill = .dies

/-- All that is read from a child which nothing but a listener interrupts. -/
def Child.heard (c : Child) (t : ProcessTable) (l : Listeners) : Reading :=
  let reading := (Reading.ofListeners l).receiveAll c.arrivals
  if c.isOpen t then reading else reading.finishBoth

namespace Runner

variable {r : Runner} {c : Child} {t : ProcessTable} {l : Listeners} {i : Option Interruption}
variable {cause : Raised}

section Abandoned
variable (hn : (c.stop t r.patience).count.isSome = true) (reading : Reading) (cause : Raised)
include hn

end Abandoned

section Stopped
variable (hg : t.groupSignals = .permitted) (hc : t.Compliant)
include hg hc

theorem isRunning_stop (hl : c.Leads t) (limit : Number) :
    c.isRunning (c.stop t limit).table = false := by
  cases he : c.exited with
  | true => simp [Child.isRunning, he]
  | false =>
    have hs : c.stop t limit = Termination.terminateTree t c.pid limit true := by
      rw [Child.stop, he]
      rfl
    have ha : (c.stop t limit).table.isAlive c.pid = false := by
      rw [hs]
      apply (Termination.clears_terminateTree_group hg hc c.pid limit).isAlive_eq_false
      intro row hr ha
      have hm := ProcessTable.mem_tree_of_row? hr ha
      refine ⟨hl.onKill_eq row hr, .inl ?_, .inr (hl.group_eq row hr)⟩
      rwa [ProcessTable.pid_of_row? hr]
    simp [Child.isRunning, ha]

end Stopped

section Interrupted
variable (r : Runner) (p : Plan) (hg : t.groupSignals = .permitted) (hc : t.Compliant)
include hg hc

end Interrupted

def draft : Plan := ⟨⟨.root, ["bin", "texi2dvi"]⟩, ⟨[]⟩, [], ⟨.root, ["work"]⟩, "a.tex"⟩

def leader : Child where
  pid := 1
  arrivals := [(.output, [112, 10]), (.error, [113])]
  status := 0
  exited := false
  hangs := true

/-- Where a wait lasts until the streams have ended, and nobody reads them, it is never answered. -/
example : ((Runner.ofEnvironment ⟨[]⟩ (.int 2)).run draft
    (.started { leader with watch := ⟨true, true, false⟩ }) Termination.family .both
    (some (.cancelAfter 1))).conclusion = .waiting := by
  decide +kernel

end Runner
end Typeset
