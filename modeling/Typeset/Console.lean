/-!
The console. Diagnostics pass a filter by level and carry a label; the compiler's own output and the
report of a failure pass unfiltered and unlabelled. Every method answers with what it writes.
-/

namespace Typeset

inductive Channel
  | output
  | error
  deriving DecidableEq

structure Write where
  channel : Channel
  text : String
  deriving DecidableEq

namespace Write

def textOn (c : Channel) (ws : List Write) : String :=
  String.join ((ws.filter (·.channel = c)).map text)

end Write

/-- Console settings: a level with the name it was given by, and whether dry runs are shown. -/
structure Console where
  levelName : String
  level : Int
  dryRun : Bool
  deriving DecidableEq

namespace Console

def errorLevel : Int := 1

/-- From this level on progress is shown. -/
def infoLevel : Int := 2

/-- From this level on details are shown. -/
def debugLevel : Int := 3

/-- The level of a name; a name that is not known shows nothing. -/
def levelOf (name : String) : Int :=
  if name = "error" then errorLevel
  else if name = "info" then infoLevel
  else if name = "debug" then debugLevel
  else 0

def ofLevel (name : String) (dryRun : Bool) : Console := ⟨name, levelOf name, dryRun⟩

def labelled (channel : Channel) (label message : String) : Write :=
  ⟨channel, "[" ++ label ++ "] " ++ message ++ "\n"⟩

def info (c : Console) (message : String) : List Write :=
  if infoLevel ≤ c.level then [labelled .output "INFO" message] else []

def error (c : Console) (message : String) : List Write :=
  if errorLevel ≤ c.level then [labelled .error "ERROR" message] else []

def debug (c : Console) (message : String) : List Write :=
  if debugLevel ≤ c.level then [labelled .output "DEBUG" message] else []

def dry (c : Console) (message : String) : List Write :=
  if c.dryRun then [labelled .output "DRY" message] else []

def output (_ : Console) (text : String) : List Write := [⟨.output, text⟩]

def errorOutput (_ : Console) (text : String) : List Write := [⟨.error, text⟩]

theorem info_sublist {c d : Console} (h : c.level ≤ d.level) (m : String) :
    (c.info m).Sublist (d.info m) := by
  unfold info
  split
  · simp [show infoLevel ≤ d.level by omega]
  · exact List.nil_sublist _

theorem debug_sublist {c d : Console} (h : c.level ≤ d.level) (m : String) :
    (c.debug m).Sublist (d.debug m) := by
  unfold debug
  split
  · simp [show debugLevel ≤ d.level by omega]
  · exact List.nil_sublist _

end Console
end Typeset
