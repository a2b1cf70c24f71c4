import Typeset.Failure
import Typeset.Fault
import Typeset.Path.Posix
import Typeset.SystemError

/-!
The toolchain and its version probe. The probe runs the compiler with a flag, and the distribution is
recognised by a marker in its output.
-/

namespace Typeset

inductive Distribution
  /-- It reads the search path variables. -/
  | default
  /-- It ignores them and takes directories as arguments. -/
  | alternate
  deriving DecidableEq

namespace Distribution

def toText : Distribution → String
  | .default => "default"
  | .alternate => "alternate"

def ofText? (s : String) : Option Distribution :=
  if s = "default" then some .default else if s = "alternate" then some .alternate else none

/-- The word that gives the alternate distribution away. -/
def marker : List Char := ['M', 'i', 'K', 'T', 'e', 'X']

def occurs (w : List Char) : List Char → Bool
  | [] => w.isEmpty
  | c :: s => w.isPrefixOf (c :: s) || occurs w s

/-- The distribution whose compiler writes this version text. -/
def ofVersionText (s : String) : Distribution :=
  if occurs marker s.toList then .alternate else .default

@[simp] theorem ofText?_toText (d : Distribution) : ofText? d.toText = some d := by
  cases d <;> rfl

end Distribution

structure Toolchain where
  versionText : String
  distribution : Distribution
  deriving DecidableEq

/-- What ends a sequence of steps early: a failure, or a fault. -/
inductive Stop
  | failure (f : Failure)
  | fault (f : Fault)
  deriving DecidableEq

namespace Probe

/-- The call of a probe: a command with a time limit. It takes the working directory and the
environment of the caller. -/
structure Call where
  command : List String
  limit : Number
  deriving DecidableEq

inductive Outcome
  | finished (status : Int) (output errors : String)
  | timedOut
  | refused (e : SystemError)
  | broken (f : Fault)
  deriving DecidableEq

def call (executable : PosixPath) (flag : String) (limit : Number) : Call :=
  ⟨[executable.toText, flag], limit⟩

def judge (executable : String) (limit : Number) : Outcome → Except Stop Toolchain
  | .timedOut =>
    if limit.toReal?.isSome then .error (.failure (.probeTimeout executable limit))
    else .error (.fault .tooLarge)
  | .refused e => .error (.failure (.probeLaunch executable e.reason))
  | .broken f => .error (.fault f)
  | .finished status output errors =>
    if status = 0 then .ok ⟨output, .ofVersionText output⟩
    else .error (.failure (.probeExit executable status errors))

theorem judge_eq_ok_iff {executable : String} {limit : Number} {o : Outcome} {t : Toolchain} :
    judge executable limit o = .ok t ↔
      ∃ output errors, o = .finished 0 output errors ∧ t = ⟨output, .ofVersionText output⟩ := by
  cases o with
  | finished status output errors =>
    simp only [judge, Outcome.finished.injEq]
    split
    · constructor
      · intro h; simp only [Except.ok.injEq] at h; exact ⟨output, errors, by simp_all, h.symm⟩
      · rintro ⟨_, _, ⟨_, rfl, _⟩, rfl⟩; rfl
    · simp_all
  | timedOut => simp only [judge]; split <;> simp
  | refused e => simp [judge]
  | broken f => simp [judge]

end Probe
end Typeset
