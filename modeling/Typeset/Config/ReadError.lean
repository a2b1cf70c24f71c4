/-!
Why the text of a configuration file gives no data.
-/

namespace Typeset.Config

inductive ReadError
  /-- It breaks the rules of its format. -/
  | malformed
  /-- An integer has too many digits. -/
  | numeralTooLong
  /-- A day, a time or a number does not exist. -/
  | impossible
  /-- A word that is declared to be a truth value is none. -/
  | notABool
  /-- A text that is declared to be a time is none. -/
  | notATime
  /-- A number is too large for the system. -/
  | tooLarge
  /-- A text that is declared to be an integer is empty. -/
  | emptyInteger
  /-- A mapping is declared to be a time. -/
  | mappingAsTime
  /-- A text is given by itself. -/
  | endless
  /-- Collections lie too deep in one another. -/
  | tooDeep
  deriving DecidableEq

/-- How many steps a reader may be inside one another. How many of them a collection takes depends on
its format. -/
def nestingRoom : Nat := 980

end Typeset.Config
