import Typeset.Config.Settings
import Typeset.FileSystem.Access
import Typeset.Host
import Typeset.Json.Reader
import Typeset.Text.Case
import Typeset.Text.Flaw
import Typeset.Text.Newline
import Typeset.Toml.Reader
import Typeset.Yaml.Data

/-!
Configuration files. The ending of a file's name decides its format; the file holds UTF-8, and what it
says has to be a mapping. An empty document reads as a mapping without keys.
-/

namespace Typeset.Config

open Text

inductive Format
  | toml
  | json
  | yaml
  deriving DecidableEq

namespace Format

def endings : List (String × Format) :=
  [(".toml", toml), (".json", json), (".yaml", yaml), (".yml", yaml)]

def ofEnding? (s : String) : Option Format := endings.lookup s

def read : Format → String → Except ReadError Value
  | toml, s => Toml.read s
  | json, s => Json.read s
  | yaml, s => Yaml.read s

end Format

inductive LoadError
  | notFound (path : String)
  | unsupported (ending : String)
  | nul
  | flawedHome (f : NameFlaw)
  | system (e : Errno) (path : String)
  | undecodable (f : Utf8.Flaw)
  | unreadable (format : Format) (e : ReadError)
  | rootNotMapping (path : String)
  | settings (e : SettingsError)
  deriving DecidableEq

def ReadError.message : ReadError → String
  | .malformed => "the document is not well formed"
  | .numeralTooLong => "an integer has too many digits"
  | .impossible => "a value does not exist"
  | .notABool => "a value is not a truth value"
  | .notATime => "a value is not a time"
  | .tooLarge => "a number is too large"
  | .emptyInteger => "an integer is empty"
  | .mappingAsTime => "a mapping is no time"
  | .endless => "a text is given by itself"
  | .tooDeep => "collections lie too deep in one another"

namespace LoadError

def message : LoadError → String
  | notFound path => "Configuration file not found: " ++ path
  | unsupported ending =>
    "Unsupported configuration file extension: " ++ (if ending = "" then "<none>" else ending) ++
      ". Supported: " ++ ", ".intercalate (Format.endings.map (·.1))
  | nul => NameFlaw.nul.message
  | flawedHome f => f.message
  | system e path => e.report path
  | undecodable f => f.message
  | unreadable _ e => e.message
  | rootNotMapping path =>
    "Configuration file '" ++ path ++ "' must contain a mapping at the root"
  | settings e => e.message

end LoadError

def decoded (bs : List UInt8) : Except LoadError String :=
  match Utf8.read bs with
  | .ok s => .ok (String.ofList (unifyNewlines s))
  | .error f => .error (.undecodable f)

def rootOf (path : String) : Value → Except LoadError Mapping
  | .null => .ok []
  | .map m => .ok m
  | _ => .error (.rootNotMapping path)

def loadFile (h : Host) (path : PosixPath) : Except LoadError Mapping := do
  let ending := lower path.suffix
  let some format := Format.ofEnding? ending | throw (.unsupported ending)
  let bytes ← (h.files.read h.workingDirectory path.toText).mapError fun e => match e with
    | .nul => LoadError.nul
    | .system e => .system e path.toText
  let value ← (format.read (← decoded bytes)).mapError (.unreadable format)
  rootOf path.toText value

end Typeset.Config
