import Typeset.CommandLine.Help
import Typeset.CommandLine.Request
import Typeset.Compile.Document
import Typeset.Config.Source

/-!
A session of the command line: the words are read, the configuration is loaded, and every file is
compiled. The exit code is zero if all files were compiled. A level on the command line counts before
the one of the configuration.
-/

namespace Typeset.CommandLine

inductive Ending
  | returned (code : Nat)
  | exited (code : Nat)
  | lookupFailed (e : Config.LoadError)
  | broken (f : Fault)
  deriving DecidableEq

inductive Preparation
  | finished (writes : List Write) (e : Ending)
  | ready (writes : List Write) (ctx : Context) (files : List String)

namespace Request

def levelName? (r : Request) : Option String :=
  r.log.value?.or (if r.verbose then some "debug" else none)

/-- The console of a request under settings. Their level counts if the request does not speak of one. -/
def console (r : Request) (s : Settings) : Console :=
  let configured := if r.log = .absent then s.log else none
  .ofLevel ((r.levelName?.or configured).getD "none") r.dryRun

end Request

def announce (c : Console) (path : Option PosixPath) : List Write :=
  path.elim [] fun p => c.debug ("Loaded configuration from " ++ p.toText)

/-- The end of a session whose configuration cannot be loaded. -/
def withoutSettings (message : String) : Preparation :=
  .finished [⟨.error, "Error: Failed to load config: " ++ message ++ "\n"⟩] (.returned 1)

/-- Prepares a request whose configuration file is known. -/
def prepareRequest (h : Host) (platform : Platform) (r : Request) (path : Option PosixPath) :
    Preparation :=
  match Config.loadSettings h path with
  | .error e => withoutSettings e.message
  | .ok settings =>
    .ready (announce (r.console settings) path)
      ⟨settings, r.console settings, h.environment, platform⟩ r.files

def prepare (h : Host) (platform : Platform) (words : List String) : Preparation :=
  let width := Help.widthIn h.environment
  match request words with
  | .error .help => .finished [⟨.output, Help.text width⟩] (.exited 0)
  | .error (.misuse m) => .finished [⟨.error, Help.complaint width m⟩] (.exited 2)
  | .ok r =>
    if r.config = .empty then withoutSettings "'list' object has no attribute 'is_file'"
    else match Config.configPath h r.config.value? h.environment with
      | .error e => .finished [] (.lookupFailed e)
      | .ok path => prepareRequest h platform r path

def verdicts (answers : List (Except Fault Verdict)) : Except Fault (List Verdict) :=
  answers.mapM id

def exitCode (vs : List Verdict) : Nat := if vs.all Verdict.isGood then 0 else 1

def conclude (answers : List (Except Fault Verdict)) : Ending :=
  match verdicts answers with
  | .ok vs => .returned (exitCode vs)
  | .error f => .broken f

def session {σ : Type} (w : World σ) (s : σ) (platform : Platform) (words : List String) :
    Trace σ Ending :=
  match prepare (w.host s) platform words with
  | .finished writes e => ⟨e, s, writes.map .wrote⟩
  | .ready writes ctx files =>
    let t := Job.runTogether w Compile.turns s (compileMany ctx files)
    ⟨conclude t.answer, t.state, writes.map .wrote ++ t.effects⟩

theorem exitCode_eq_zero_iff {vs : List Verdict} :
    exitCode vs = 0 ↔ ∀ v ∈ vs, v.isGood = true := by
  simp [exitCode]

end Typeset.CommandLine
