import Typeset.Number
import Typeset.Text.Blank

/-!
Failures of a compile: what can go wrong before the compiler runs. Each has a message, and a summary
that is reported to the user; for a version probe that failed, the summary is what the probed
program itself wrote.
-/

namespace Typeset

open Text

inductive Failure
  | general (message : String)
  | targetPath (path reason : String)
  | toolNotFound (program : String)
  | probe (message : String)
  | probeLaunch (executable reason : String)
  | probeTimeout (executable : String) (limit : Number)
  | probeExit (executable : String) (status : Int) (errors : String)
  | launch (executable reason : String)
  deriving DecidableEq

namespace Failure

def message : Failure → String
  | .general m => m
  | .targetPath path reason => "Unable to resolve " ++ path ++ ": " ++ reason
  | .toolNotFound program => "can't find " ++ program
  | .probe m => m
  | .probeLaunch executable reason => "Unable to run " ++ executable ++ ": " ++ reason
  | .probeTimeout executable limit =>
    executable ++ " did not answer the version probe within " ++
      limit.general?.getD limit.toText ++ "s"
  | .probeExit executable status _ =>
    executable ++ " exited with code " ++ toString status ++ " while probing its version"
  | .launch executable reason => "Unable to launch " ++ executable ++ ": " ++ reason

def summary : Failure → String
  | .probeExit executable status errors =>
    if isBlankText errors then message (.probeExit executable status errors)
    else dropFinalNewlines errors
  | f => f.message

def isOfProbe : Failure → Bool
  | .probe _ => true
  | .probeLaunch _ _ => true
  | .probeTimeout _ _ => true
  | .probeExit _ _ _ => true
  | _ => false

def report (f : Failure) : String := f.summary ++ "\n"

theorem summary_of_blank (executable : String) (status : Int) {errors : String}
    (h : isBlankText errors = true) :
    (Failure.probeExit executable status errors).summary =
      (Failure.probeExit executable status errors).message := by
  simp [summary, h]

end Failure
end Typeset
