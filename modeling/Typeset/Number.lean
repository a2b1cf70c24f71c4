import Typeset.Number.Binary64
import Typeset.Number.Shortest
import Typeset.Number.Numeral

/-!
Numbers as configuration files and callers give them: integers of any size, or floating point.
The two print differently, so `30` and `30.0` are told apart.
-/

namespace Typeset

inductive Number
  | int (n : Int)
  | real (x : Binary64)
  deriving DecidableEq

namespace Number

def toText : Number → String
  | .int n => toString n
  | .real x => x.toText

/-- The floating point value; an integer may be too large for one. -/
def toReal? : Number → Option Binary64
  | .int n => Binary64.ofInt? n
  | .real x => some x

def general? (n : Number) : Option String := n.toReal?.map Binary64.general

@[simp] theorem toReal?_real (x : Binary64) : (Number.real x).toReal? = some x := rfl

end Number
end Typeset
