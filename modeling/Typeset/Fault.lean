import Typeset.Text.Encoding

/-!
Faults: what ends a run without a report of its own, because no failure of the program describes it.
-/

namespace Typeset

/-- Why an operation ended without an answer or a failure. -/
inductive Fault
  /-- A text that was meant for the system holds a NUL. -/
  | nul
  /-- A text that was meant for the system has a character that its encoding lacks. -/
  | unencodable
  /-- A relative path was to be made absolute, and the working directory is gone. -/
  | noWorkingDirectory
  /-- An integer is too large for floating point, or a time too long for the system. -/
  | tooLarge
  /-- A time to wait is not a number. -/
  | notANumber
  /-- A command without any word. -/
  | emptyCommand
  /-- A runner that cannot run anything. -/
  | unsupported
  /-- A run that was interrupted, or that nothing ends. -/
  | interrupted
  deriving DecidableEq

def NameFlaw.fault : NameFlaw → Fault
  | .nul => .nul
  | .unencodable => .unencodable

end Typeset
