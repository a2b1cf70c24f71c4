import Typeset.Compile.Job
import Typeset.Host.Command

/-!
A host as a world: probes and children are run on it, and what they do to its files stays.
-/

namespace Typeset.Host

def refusal (e : Errno) (path : String) : SystemError := .ofErrno e path

/-- Probes a program. A probe that takes too long leaves no result. -/
def probe (c : Probe.Call) (h : Host) : Probe.Outcome × Host :=
  match h.run c.command h.environment (some c.limit) with
  | .ok (r, h) => (.finished r.status r.output r.errors, h)
  | .error (.timedOut _ _) => (.timedOut, h)
  | .error (.start (.fault f)) => (.broken f, h)
  | .error (.start (.system e path)) => (.refused (refusal e path), h)

def childOf (x : Execution) : Child :=
  .ending 1 (Child.arrivalsOf [x.output] [x.errors]) x.status

def launch (s : Spawn) (h : Host) : Launch × Host :=
  match Invocation.start ⟨s.command, some s.workingDirectory.toText, s.environment⟩ h with
  | .ok x => (.started (childOf x), { h with files := x.files })
  | .error (.fault f) => (.broken f, h)
  | .error (.system e path) => (.refused (refusal e path), h)

def world : World Host where
  host h := h
  probe := probe
  launch := launch

@[simp] theorem host_world (h : Host) : world.host h = h := rfl

end Typeset.Host
