import Typeset.Compile.Job

/-!
Scripted worlds: what probes and children do is given beforehand, one entry for each call. When the
last entry has been used it stays, so a script never runs out.
-/

namespace Typeset

/-- A host with the outcomes of probes and of starts that are still to come. -/
structure Script where
  host : Host
  probes : List Probe.Outcome
  launches : List Launch

namespace Script

/-- The next entry and what is left; the last one stays. An empty script has a usual entry. -/
def next {α : Type} (usual : α) : List α → α × List α
  | [] => (usual, [])
  | [a] => (a, [a])
  | a :: b :: rest => (a, b :: rest)

def quietProbe : Probe.Outcome := .finished 0 "" ""

def quietLaunch : Launch :=
  .started (.ending 100 [] 0)

def world : World Script where
  host s := s.host
  probe _ s := ((next quietProbe s.probes).1, { s with probes := (next quietProbe s.probes).2 })
  launch _ s :=
    ((next quietLaunch s.launches).1, { s with launches := (next quietLaunch s.launches).2 })

@[simp] theorem next_singleton {α : Type} (usual a : α) : next usual [a] = (a, [a]) := rfl

@[simp] theorem host_launch (p : Spawn) (s : Script) : (world.launch p s).2.host = s.host := rfl

@[simp] theorem host_probe (c : Probe.Call) (s : Script) : (world.probe c s).2.host = s.host := rfl

end Script
end Typeset
