import Typeset.Compile.Job
import Typeset.Config.Settings
import Typeset.Host.TargetPath
import Typeset.Overlay
import Typeset.Shell.Words

/-!
Compiling a document. The stages follow each other: the document's path is resolved, the compiler is
found and probed, the tree of inputs is located, the variables and the arguments are composed, and
the compiler is run. The first failure is reported on the error channel and ends the attempt; a dry
run shows the plan in place of running it.
-/

namespace Typeset

/-- What all documents of a compile share. -/
structure Context where
  settings : Settings
  console : Console
  environment : Variables
  platform : Platform
  deriving DecidableEq

/-- How the compile of a document ended. -/
inductive Verdict
  | exited (status : Int)
  | failed (f : Failure)
  deriving DecidableEq

def Verdict.isGood (v : Verdict) : Bool := v = .exited 0

namespace Compile

def enter (s : Stage) : ExceptT Stop Job Unit := ExceptT.lift (.enter s (.done ()))

def say (ws : List Write) : ExceptT Stop Job Unit := ExceptT.lift (Job.say ws)

/-- Lets the compiles of other documents go on. -/
def pause : ExceptT Stop Job Unit := ExceptT.lift (.pause (.done ()))

def host : ExceptT Stop Job Host := ExceptT.lift Job.ask

/-- The absolute path of a document without links. -/
def targetOn (h : Host) (path : String) : Except Stop PosixPath :=
  match h.resolve path with
  | .ok p => .ok p
  | .error (.flawed f) => .error (.fault f.fault)
  | .error e => .error (.failure (.targetPath path e.message))

def resolveTarget (path : String) : ExceptT Stop Job PosixPath := do
  enter .resolveTarget
  let h ← host
  ExceptT.mk (.done (targetOn h path))

def findExecutable (ctx : Context) : ExceptT Stop Job PosixPath := do
  enter .findExecutable
  let h ← host
  match h.findProgram? ctx.settings.program (some ctx.environment) with
  | none => throw (.failure (.toolNotFound ctx.settings.program))
  | some p =>
    say (ctx.console.debug ("Using " ++ p.toText))
    pure p

def probe (ctx : Context) (executable : PosixPath) : ExceptT Stop Job Toolchain := do
  enter .probe
  let limit := ctx.settings.probeTimeout
  let outcome ← ExceptT.lift (.probe (Probe.call executable ctx.settings.probeFlag limit) .done)
  match Probe.judge executable.toText limit outcome with
  | .error s => throw s
  | .ok t =>
    say (ctx.console.debug ("Detected " ++ t.distribution.toText ++ " toolchain"))
    pure t

def check (f : Option Fault) : ExceptT Stop Job Unit :=
  match f with
  | some f => throw (.fault f)
  | none => pure ()

/-- Locates the tree of inputs; it may be missing. -/
def locateTexmf (ctx : Context) : ExceptT Stop Job (Option Texmf) := do
  enter .locateTexmf
  let h ← host
  let share := Texmf.shareDirectory? ctx.settings.shareDirectory ctx.environment
  check (Texmf.fault? h share)
  let tree := Texmf.locate h ctx.platform share
  if tree.isNone then
    say (ctx.console.debug "R texmf directory not found; keeping the ambient TeX search paths")
  pure tree

def composeOverlay (ctx : Context) (tree : Option Texmf) : ExceptT Stop Job Variables := do
  enter .composeOverlay
  let h ← host
  let scripts := ctx.settings.scriptsDirectory.getD h.scripts
  check (overlayFault? h tree ctx.platform scripts)
  pure (compilerOverlay h tree ctx.environment ctx.platform scripts)

def buildArguments (ctx : Context) (toolchain : Toolchain) (tree : Option Texmf) :
    ExceptT Stop Job (List String) := do
  enter .buildArguments
  pure (compilerArguments toolchain.distribution ctx.platform tree)

def plan (ctx : Context) (target : PosixPath) : ExceptT Stop Job Plan := do
  let executable ← findExecutable ctx
  let toolchain ← probe ctx executable
  let tree ← locateTexmf ctx
  let overlay ← composeOverlay ctx tree
  let arguments ← buildArguments ctx toolchain tree
  pure (.forTarget executable overlay arguments target)

def planLines (p : Plan) : List String :=
  Shell.format p.command :: ("      (cwd: " ++ p.workingDirectory.toText ++ ")") ::
    p.environment.pairs.map fun v => "      (env: " ++ v.1 ++ "=" ++ v.2 ++ ")"

def describe (ctx : Context) (p : Plan) : ExceptT Stop Job Unit :=
  say ((planLines p).flatMap ctx.console.dry)

/-- Passes on what the compiler writes while it runs. -/
def passOn (run : Run) : ExceptT Stop Job Unit := do
  pause
  say run.reading.handed
  pause

def execute (ctx : Context) (p : Plan) : ExceptT Stop Job Int := do
  enter .spawn
  let runner := Runner.ofEnvironment ctx.environment Runner.defaultPatience
  let launch ← ExceptT.lift (.spawn (runner.spawn p) .done)
  let run := runner.run p launch .empty .both none
  match run.conclusion with
  | .failed f => throw (.failure f)
  | .broken f => throw (.fault f)
  | .exited status =>
    passOn run
    pure status
  | _ =>
    passOn run
    throw (.fault .interrupted)

/-- The compile of a document whose path is resolved. -/
def compileTarget (ctx : Context) (target : PosixPath) : ExceptT Stop Job Int := do
  let p ← plan ctx target
  if ctx.console.dryRun then
    describe ctx p
    pure 0
  else
    say (ctx.console.info ("Compiling " ++ target.toText))
    let status ← execute ctx p
    say (ctx.console.info (ctx.settings.program ++ " exited with code " ++ toString status ++
      " for " ++ target.name))
    pure status

def steps (ctx : Context) (path : String) : ExceptT Stop Job Int := do
  compileTarget ctx (← resolveTarget path)

def report (ctx : Context) : Except Stop Int → Job (Except Fault Verdict)
  | .ok status => .done (.ok (.exited status))
  | .error (.failure f) => (Job.say (ctx.console.errorOutput f.report)).bind fun _ =>
    .done (.ok (.failed f))
  | .error (.fault f) => .done (.error f)

end Compile

/-- The compile of a document, up to a verdict. Only a fault ends it without one. -/
def compile (ctx : Context) (path : String) : Job (Except Fault Verdict) :=
  (Compile.steps ctx path).run.bind (Compile.report ctx)

/-- The turns that a compile takes: up to the start of the compiler, and while it runs. -/
def Compile.turns : Nat := 2

/-- The compiles of several documents, each for itself. -/
def compileMany (ctx : Context) (paths : List String) : List (Job (Except Fault Verdict)) :=
  paths.map (compile ctx)

@[simp] theorem length_compileMany (ctx : Context) (paths : List String) :
    (compileMany ctx paths).length = paths.length := by
  simp [compileMany]

end Typeset
