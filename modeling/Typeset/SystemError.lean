import Typeset.FileSystem.Basic

/-!
Refusals of the system as a program sees them. Most carry a number and words for it, and some a
path; others are a message only.
-/

namespace Typeset

open Text

inductive SystemError
  | coded (number : Int) (words : String) (path : Option String)
  | plain (message : String)
  deriving DecidableEq

namespace SystemError

def ofErrno (e : Errno) (path : String) : SystemError := .coded e.number e.reason (some path)

def toText : SystemError → String
  | .coded n words none => "[Errno " ++ toString n ++ "] " ++ words
  | .coded n words (some p) => "[Errno " ++ toString n ++ "] " ++ words ++ ": " ++ Literal.ofText p
  | .plain m => m

/-- The words for the refusal, or the full text where there are none. -/
def reason : SystemError → String
  | .coded n words p => if words = "" then toText (.coded n words p) else words
  | .plain m => m

@[simp] theorem reason_plain (m : String) : (SystemError.plain m).reason = m := rfl

end SystemError
end Typeset
