import Typeset.Config.ReadError
import Typeset.Config.Value
import Typeset.Path.Home
import Typeset.Path.Posix

/-!
Settings from configuration data. The section `texpdf` may give six keys; everything else in it is
refused, everything outside it is ignored. What it does not give is taken from a table. The checks are
made in a fixed order, so the first that fails decides the error.
-/

namespace Typeset

open Text Config

structure Settings where
  program : String
  probeFlag : String
  probeTimeout : Number
  shareDirectory : Option String
  scriptsDirectory : Option PosixPath
  log : Option String
  deriving DecidableEq

namespace Config

inductive SettingsError
  | sectionNotMapping (name : String)
  | unknownKeys (names : List String)
  | emptyProgram
  | timeoutNotANumber
  | timeoutNotPositive
  | timeoutTooLarge
  | unwritable (flaw : Value.Flaw)
  | flawedHome (f : NameFlaw)
  deriving DecidableEq

namespace SettingsError

def message : SettingsError → String
  | sectionNotMapping name => "Configuration section '" ++ name ++ "' must be a mapping"
  | unknownKeys names =>
    "Configuration section 'texpdf' contains unknown keys: " ++ ", ".intercalate names
  | emptyProgram => "Configuration key 'program' must not be empty"
  | timeoutNotANumber => "Configuration key 'probe_timeout' must be a number"
  | timeoutNotPositive => "Configuration key 'probe_timeout' must be positive"
  | timeoutTooLarge => "int too large to convert to float"
  | unwritable .integerTooLong => "Exceeds the limit (" ++ toString digitLimit ++
      " digits) for integer string conversion; use sys.set_int_max_str_digits() to increase the limit"
  | unwritable .tooDeep => "maximum recursion depth exceeded while getting the repr of an object"
  | flawedHome f => f.message

end SettingsError

def sectionName : String := "texpdf"

/-- The section of a name; an absent or empty one has no keys. -/
def sectionOf (data : Mapping) (name : String) : Except SettingsError Mapping :=
  match data.lookup name with
  | none => .ok []
  | some .null => .ok []
  | some (.map m) => .ok m
  | some _ => .error (.sectionNotMapping name)

/-- What counts for the keys that a section does not give. -/
def defaults : Mapping :=
  [(.text "program", .text "texi2dvi"), (.text "probe_flag", .text "--version"),
    (.text "probe_timeout", .real (.ofDecimal false 30 0)), (.text "share_dir", .null),
    (.text "scripts_dir", .null), (.text "log", .null)]

def knownKeys : List String := defaults.map (·.1.toText)

/-- The value of a key in a section that is laid over the defaults. -/
def valueOf (m : Mapping) (key : String) : Value :=
  ((m.lookup key).or (defaults.lookup key)).getD .null

def insertSorted (s : String) : List String → List String
  | [] => [s]
  | t :: ts => if s = t then t :: ts else if s < t then s :: t :: ts else t :: insertSorted s ts

def textOf (room : Nat) (v : Value) : Except SettingsError String :=
  (v.flaw? room).elim (.ok v.toText) fun flaw => .error (.unwritable flaw)

/-- The trimmed text of a value; null and blanks are nothing. -/
def optionalText (room : Nat) (v : Value) : Except SettingsError (Option String) :=
  match v with
  | .null => .ok none
  | v => do
    let s := trim (← textOf room v)
    pure (if s = "" then none else some s)

def unknownKeys (room : Nat) (m : Mapping) : Except SettingsError (List String) := do
  let keys ← m.mapM fun p => textOf room p.1
  pure ((keys.filter (· ∉ knownKeys)).foldr insertSorted [])

def asciiText? (bs : List UInt8) : Option (List Char) :=
  if bs.all (· < 0x80) then some (bs.map fun b => Char.ofNat b.toNat) else none

def realOf (v : Value) : Except SettingsError Binary64 :=
  match v with
  | .text s => (Binary64.read? s).elim (.error .timeoutNotANumber) .ok
  | .bytes bs =>
    ((asciiText? bs).bind Numeral.read?).elim (.error .timeoutNotANumber) .ok
  | v => match v.number? with
    | none => .error .timeoutNotANumber
    | some n => n.toReal?.elim (.error .timeoutTooLarge) .ok

def timeoutOf (v : Value) : Except SettingsError Binary64 := do
  let x ← realOf v
  if x.isNonPositive then throw .timeoutNotPositive else pure x

/-- The directory that a text names, with its tilde expanded. -/
def directoryOf (homes : Homes) (text : Option String) : Except SettingsError (Option String) :=
  match text with
  | none => .ok none
  | some s => ((homes.expand s).map some).mapError .flawedHome

end Config

namespace Settings

/-- The settings where there is no configuration. -/
def default : Settings :=
  ⟨"texi2dvi", "--version", .real (.ofDecimal false 30 0), none, none, none⟩

/-- The flag of a section that gives a blank one. -/
def flagOfBlank : String := "--version"

def ofSection (homes : Homes) (room : Nat) (m : Mapping) : Except SettingsError Settings := do
  let unknown ← unknownKeys room m
  if unknown ≠ [] then throw (.unknownKeys unknown)
  let some program ← optionalText room (valueOf m "program") | throw .emptyProgram
  let timeout ← timeoutOf (valueOf m "probe_timeout")
  let scripts ← optionalText room (valueOf m "scripts_dir")
  let share ← optionalText room (valueOf m "share_dir")
  let flag ← optionalText room (valueOf m "probe_flag")
  let share ← directoryOf homes share
  let scripts ← directoryOf homes scripts
  let log ← optionalText room (valueOf m "log")
  pure {
    program := program
    probeFlag := flag.getD flagOfBlank
    probeTimeout := .real timeout
    shareDirectory := share
    scriptsDirectory := scripts.map PosixPath.ofText
    log := log }

/-- The settings that configuration data gives to a writer that can be inside so many collections. -/
def ofMapping (homes : Homes) (data : Mapping) (room : Nat := nestingRoom) :
    Except SettingsError Settings := do
  ofSection homes room (← sectionOf data sectionName)

/-- A section that gives nothing comes to the settings without a configuration. -/
theorem ofSection_nil (homes : Homes) (room : Nat) : ofSection homes room [] = .ok default := by
  rfl

end Settings
end Typeset
