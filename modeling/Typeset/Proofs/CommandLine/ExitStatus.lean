import Typeset.Proofs.Compile.Attempts
import Typeset.Proofs.Compile.Concurrency

/-!
# The exit status

A session whose configuration loads attempts all its documents, and its status is zero exactly if the
compiler ended each of them with status zero. A configuration that does not load is refused before
anything else is done.
-/

namespace Typeset.CommandLine
open Compile

theorem verdicts_eq_ok_iff {answers : List (Except Fault Verdict)} {vs : List Verdict} :
    verdicts answers = .ok vs ↔ answers = vs.map .ok := by
  induction answers generalizing vs with
  | nil => cases vs <;> simp [verdicts, pure, Except.pure]
  | cons a answers ih =>
    cases a with
    | error f =>
      have h : verdicts (.error f :: answers) = .error f := rfl
      cases vs <;> simp [h]
    | ok v =>
      rw [verdicts_cons_ok]
      cases hvs : verdicts answers <;> cases vs <;> simp [Except.map, ← ih, hvs]

theorem exitCode_eq_zero_or_one (vs : List Verdict) : exitCode vs = 0 ∨ exitCode vs = 1 := by
  unfold exitCode
  split
  · exact .inl rfl
  · exact .inr rfl

theorem isGood_iff {v : Verdict} : v.isGood = true ↔ v = .exited 0 := by
  simp [Verdict.isGood]

namespace Request
variable (r : Request) (h : Host)

/-- The lookup of the configuration does not fail. A flag without a value is not looked up. -/
def LooksUp : Prop :=
  r.config = .empty ∨ ∃ path, Config.configPath h r.config.value? h.environment = .ok path

/-- The configuration is found at a path, or there is none to be found, and it gives settings. -/
structure Loads (path : Option PosixPath) (settings : Settings) : Prop where
  ne_empty : r.config ≠ .empty
  configPath_eq : Config.configPath h r.config.value? h.environment = .ok path
  loadSettings_eq : Config.loadSettings h path = .ok settings

def context (platform : Platform) (settings : Settings) : Context :=
  ⟨settings, r.console settings, h.environment, platform⟩

variable {r h}

theorem Loads.unique {path path' : Option PosixPath} {settings settings' : Settings}
    (hl : r.Loads h path settings) (hl' : r.Loads h path' settings') :
    path = path' ∧ settings = settings' := by
  obtain rfl := Except.ok.inj (hl.configPath_eq.symm.trans hl'.configPath_eq)
  exact ⟨rfl, Except.ok.inj (hl.loadSettings_eq.symm.trans hl'.loadSettings_eq)⟩

variable {σ : Type}

def together (r : Request) (w : World σ) (s : σ) (platform : Platform) (settings : Settings) :
    Trace σ (List (Except Fault Verdict)) :=
  Job.runTogether w turns s (compileMany (r.context (w.host s) platform settings) r.files)

end Request

section Session
variable {σ : Type} {w : World σ} {s : σ} (platform : Platform) {words : List String} {r : Request}
  (hr : request words = .ok r)
include hr

theorem session_of_loads {path : Option PosixPath} {settings : Settings}
    (hl : r.Loads (w.host s) path settings) :
    session w s platform words =
      ⟨conclude (r.together w s platform settings).answer,
        (r.together w s platform settings).state,
        (announce (r.console settings) path).map .wrote ++
          (r.together w s platform settings).effects⟩ := by
  have hprepare : prepare (w.host s) platform words = .ready (announce (r.console settings) path)
      (r.context (w.host s) platform settings) r.files := by
    simp only [prepare, hr, if_neg hl.ne_empty, hl.configPath_eq, prepareRequest,
      hl.loadSettings_eq]
    rfl
  rw [session, hprepare]
  rfl

/-- What is left of a session whose configuration does not load is one line of error. -/
theorem session_of_not_loads (hlookup : r.LooksUp (w.host s))
    (hn : ¬∃ path settings, r.Loads (w.host s) path settings) :
    ∃ message, session w s platform words = ⟨.returned 1, s,
      [.wrote ⟨.error, "Error: Failed to load config: " ++ message ++ "\n"⟩]⟩ := by
  have hprepare : ∃ message, prepare (w.host s) platform words = withoutSettings message := by
    by_cases he : r.config = .empty
    · constructor
      rw [prepare, hr]
      exact if_pos he
    · obtain ⟨path, hpath⟩ := hlookup.resolve_left he
      cases hload : Config.loadSettings (w.host s) path with
      | ok settings => exact absurd ⟨path, settings, he, hpath, hload⟩ hn
      | error e =>
        refine ⟨e.message, ?_⟩
        simp only [prepare, hr, if_neg he, hpath, prepareRequest, hload]
  obtain ⟨message, hprepare⟩ := hprepare
  refine ⟨message, ?_⟩
  rw [session, hprepare]
  rfl

end Session

/-- A session attempts its documents. Its compiles take turns in some way; each begins once, in the
order of the documents, and each comes to its verdict. -/
structure Attempts {σ : Type} (w : World σ) (s : σ) (ctx : Context) (files : List String)
    (announced : List Write) (vs : List Verdict) (t : Trace σ Ending)
    (p : Pool σ (Except Fault Verdict)) : Prop where
  exists_schedule :
    ∃ schedule, p = (Pool.start s (files.map (compile ctx))).follow (fun _ => w) schedule
  entries_eq : Pool.entries .resolveTarget p.log = List.range files.length
  jobs_eq : p.jobs = vs.map fun v => .done (.ok v)
  length_eq : vs.length = files.length
  state_eq : t.state = p.state
  effects_eq : t.effects = announced.map .wrote ++ p.log.map Prod.snd

/-- What the exit status says about a session. It is zero if the configuration loads and all documents
are compiled with status zero, and else it is one. If the configuration loads, all documents are
attempted; if not, nothing is asked for and nothing is written as output. -/
structure Truthful {σ : Type} (w : World σ) (s : σ) (platform : Platform) (r : Request)
    (t : Trace σ Ending) : Prop where
  zero_or_one : t.answer = .returned 0 ∨ t.answer = .returned 1
  zero_iff : t.answer = .returned 0 ↔ ∃ path settings vs, r.Loads (w.host s) path settings ∧
    verdicts (r.together w s platform settings).answer = .ok vs ∧ ∀ v ∈ vs, v = .exited 0
  attempts : ∀ path settings, r.Loads (w.host s) path settings → ∃ vs p,
    verdicts (r.together w s platform settings).answer = .ok vs ∧
    Attempts w s (r.context (w.host s) platform settings) r.files
      (announce (r.console settings) path) vs t p
  refuses : (¬∃ path settings, r.Loads (w.host s) path settings) →
    t.answer = .returned 1 ∧ t.state = s ∧ t.probes = [] ∧ t.spawns = [] ∧
      t.writes.filter (·.channel = .output) = []

theorem attempts_of_verdicts {σ : Type} {w : World σ} {s : σ} {ctx : Context} {files : List String}
    {vs : List Verdict}
    (hvs : verdicts (Job.runTogether w turns s (compileMany ctx files)).answer = .ok vs)
    (announced : List Write) :
    let t := Job.runTogether w turns s (compileMany ctx files)
    ∃ p, Attempts w s ctx files announced vs
      ⟨.returned (exitCode vs), t.state, announced.map .wrote ++ t.effects⟩ p := by
  obtain ⟨schedule, hp⟩ :=
    Pool.exists_schedule_logTogether w turns (Pool.start s (compileMany ctx files))
  have hanswers := verdicts_eq_ok_iff.1 hvs
  have hlength := congrArg List.length hanswers
  rw [Job.length_answer_runTogether, length_compileMany, List.length_map] at hlength
  refine ⟨_, ⟨schedule, hp.symm⟩, ?_, ?_, hlength.symm, rfl, ?_⟩
  · exact entries_compileMany ctx w s turns files
  · show (Job.runTogether w turns s (compileMany ctx files)).answer.map Job.done = _
    rw [hanswers, List.map_map]
    rfl
  · simp only [Pool.start, List.nil_append, Pool.map_snd_logTogether]

section Truth
variable {σ : Type} {w : World σ} {s : σ} {platform : Platform} {words : List String} {r : Request}
  (hr : request words = .ok r)
include hr

theorem truthful_of_loads {path : Option PosixPath} {settings : Settings} {vs : List Verdict}
    (hl : r.Loads (w.host s) path settings)
    (hvs : verdicts (r.together w s platform settings).answer = .ok vs) :
    Truthful w s platform r (session w s platform words) := by
  have hconclude : conclude (r.together w s platform settings).answer = .returned (exitCode vs) := by
    rw [conclude, hvs]
  have hzero : exitCode vs = 0 ↔ ∀ v ∈ vs, v = .exited 0 := by
    simp only [exitCode_eq_zero_iff, isGood_iff]
  rw [session_of_loads platform hr hl, hconclude]
  refine ⟨?_, ?_, ?_, fun hn => absurd ⟨path, settings, hl⟩ hn⟩
  · exact (exitCode_eq_zero_or_one vs).imp (congrArg _) (congrArg _)
  · rw [Ending.returned.injEq, hzero]
    constructor
    · intro hgood
      exact ⟨path, settings, vs, hl, hvs, hgood⟩
    · rintro ⟨path', settings', vs', hl', hvs', hgood⟩
      obtain ⟨rfl, rfl⟩ := hl.unique hl'
      obtain rfl := Except.ok.inj (hvs.symm.trans hvs')
      exact hgood
  · intro path' settings' hl'
    obtain ⟨rfl, rfl⟩ := hl.unique hl'
    obtain ⟨p, hp⟩ := attempts_of_verdicts hvs (announce (r.console settings) path)
    exact ⟨vs, p, hvs, hp⟩

/-- The exit status tells the truth, whenever the lookup of the configuration and the compiles come to
an end. -/
theorem exit_status_truthful (hlookup : r.LooksUp (w.host s))
    (hreturns : ∀ path settings, r.Loads (w.host s) path settings →
      ∃ vs, verdicts (r.together w s platform settings).answer = .ok vs) :
    Truthful w s platform r (session w s platform words) := by
  by_cases hl : ∃ path settings, r.Loads (w.host s) path settings
  · obtain ⟨path, settings, hl⟩ := hl
    obtain ⟨vs, hvs⟩ := hreturns path settings hl
    exact truthful_of_loads hr hl hvs
  · obtain ⟨message, h⟩ := session_of_not_loads platform hr hlookup hl
    rw [h]
    refine ⟨.inr rfl, ?_, fun path settings hl' => absurd ⟨path, settings, hl'⟩ hl,
      fun _ => ⟨rfl, rfl, rfl, rfl, rfl⟩⟩
    constructor
    · rintro ⟨⟩
    · rintro ⟨path, settings, vs, hl', -⟩
      exact absurd ⟨path, settings, hl'⟩ hl

end Truth

/-- A world with a compiler that takes documents in `/doc` and no others, and without a file for a
configuration. -/
def furnished (env : Variables) : World Unit where
  host _ := { twoCompilers with environment := env }
  probe _ _ := (.finished 0 "" "", ())
  launch p _ := (.started (.ending 7 [(.output, [0x61])]
    (if p.workingDirectory = ⟨.root, ["doc"]⟩ then 0 else 1)), ())

theorem apart_furnished (env : Variables) :
    World.Apart (fun _ => furnished env) fun _ _ => () := by
  constructor <;> intros <;> first | rfl | exact ⟨rfl, rfl⟩

theorem isRegular_furnished (env : Variables) {path : String} (name : String)
    (rest : List String) (h : Text.split '/' path = name :: rest)
    (hpath : '\x00' ∉ path.toList ∧ path ≠ "" ∧ path.utf8ByteSize ≤ FileSystem.pathLimit ∧
      path.front ≠ '/')
    (hname : FileSystem.isHere name = false ∧ name ≠ ".." ∧
      name.utf8ByteSize ≤ FileSystem.nameLimit ∧ twoCompilers.files.entry? [name] = none)
    (htext : (PosixPath.ofText path).toText = path) :
    Config.isRegular ((furnished env).host ()) (.ofText path) = .ok false := by
  obtain ⟨hhere, hup, hlength, hmissing⟩ := hname
  have hroot : twoCompilers.files.hasDirectory [] = true := rfl
  have hfile : twoCompilers.files.isFile [] path = .ok false :=
    FileSystem.isFile_of_missing hroot hpath h ⟨hhere, hup, hlength⟩ hmissing
  have hhost : ((furnished env).host ()).isFile path = .ok false := hfile
  rw [Config.isRegular, htext, hhost]
  rfl

def plainRequest (files : List String) : Request := ⟨files, .absent, false, false, .absent⟩

def found : Variables := ⟨[("PATH", "/bin")]⟩

def misled : Variables := ⟨[("TEXPDF_CONFIG", "none.toml")]⟩

theorem loads_found (files : List String) :
    (plainRequest files).Loads ((furnished found).host ()) none .default := by
  have husual : Config.isRegular ((furnished found).host ()) (.ofText Config.usualPath) =
      .ok false :=
    isRegular_furnished found "~" [".config", "texpdf", "config.toml"]
      (by decide) (by decide) (by decide) (by decide)
  have hexpand : Config.expandedPath ((furnished found).host ()) Config.usualPath =
      .ok (.ofText Config.usualPath) := rfl
  have henv : ((furnished found).host ()).environment.nonEmpty? Config.pathVariable = none := rfl
  have hvalue : (plainRequest files).config.value? = none := rfl
  refine ⟨nofun, ?_, rfl⟩
  simp only [Config.configPath, hvalue, henv, hexpand, bind, Except.bind, husual]
  rfl

theorem configPath_misled :
    Config.configPath ((furnished misled).host ()) none misled =
      .ok (some (.ofText "none.toml")) := rfl

theorem not_loads_misled (files : List String) :
    ¬∃ path settings, (plainRequest files).Loads ((furnished misled).host ()) path settings := by
  rintro ⟨path, settings, -, hpath, hload⟩
  have hmissing : Config.isRegular ((furnished misled).host ()) (.ofText "none.toml") =
      .ok false :=
    isRegular_furnished misled "none.toml" [] (by decide) (by decide)
      (by decide) (by decide)
  obtain rfl : some (.ofText "none.toml") = path :=
    Except.ok.inj (configPath_misled.symm.trans hpath)
  rw [Config.loadSettings, hmissing] at hload
  cases hload

theorem answer_found {path : String} {target : PosixPath}
    (ht : targetOn twoCompilers path = .ok target) :
    ((compile (searching "/bin") path).run (furnished found) ()).answer =
      .ok (.exited (if target.parent = ⟨.root, ["doc"]⟩ then 0 else 1)) := by
  -- the hosts differ in their variables, which none of these facts looks at
  have ht' : targetOn ((furnished found).host ()) path = .ok target := ht
  have hf : executableOn (searching "/bin") ((furnished found).host ()) =
      some (.ofText "/bin/texi2dvi") := executableOn_root_bin
  have hj : judged (searching "/bin") (.ofText "/bin/texi2dvi")
      ((furnished found).probe (probeCall (searching "/bin") (.ofText "/bin/texi2dvi")) ()).1 =
        .ok ⟨"", .ofVersionText ""⟩ := rfl
  have hp : planFault? (searching "/bin") ((furnished found).host ()) = none :=
    planFault?_twoCompilers _
  rw [run_compile_real (attempt_preparation_of_planned ht' hf hj hp) rfl]
  rfl

/-- A directory is no document for the compiler. -/
theorem together_found :
    ((plainRequest ["doc", "doc/a.tex"]).together (furnished found) () .posix .default).answer =
      [.ok (.exited 1), .ok (.exited 0)] := by
  have hdoc : twoCompilers.files.HasPlain [] ["doc"] .directory := by decide
  have ht : targetOn twoCompilers "doc" = .ok ⟨.root, ["doc"]⟩ :=
    targetOn_of_resolve (Host.resolve_atRoot (by decide) (by decide) hdoc (by decide))
  have hjobs : (plainRequest ["doc", "doc/a.tex"]).together (furnished found) () .posix .default =
      Job.runTogether (furnished found) turns ()
        [compile (searching "/bin") "doc", compile (searching "/bin") "doc/a.tex"] := rfl
  have hone : ((compile (searching "/bin") "doc").run (furnished found) ()).answer =
      .ok (.exited 1) := answer_found ht
  have htwo : ((compile (searching "/bin") "doc/a.tex").run (furnished found) ()).answer =
      .ok (.exited 0) := answer_found targetOn_twoCompilers
  rw [hjobs, Pool.answer_runTogether (apart_furnished found)]
  exact congrArg₂ (fun a b => [a, b]) hone htwo

/-- Of two documents the compiler takes the second. Both are attempted, and the status is one. A
configuration that is named and missing is refused. -/
theorem exit_status_truthful_furnished :
    request ["doc", "doc/a.tex"] = .ok (plainRequest ["doc", "doc/a.tex"]) ∧
    (let t := session (furnished found) () .posix ["doc", "doc/a.tex"]
     t.answer = .returned 1 ∧
      ∃ p, Attempts (furnished found) () (searching "/bin") ["doc", "doc/a.tex"] []
        [.exited 1, .exited 0] t p) ∧
    (session (furnished misled) () .posix ["doc", "doc/a.tex"]).answer = .returned 1 := by
  have hr : request ["doc", "doc/a.tex"] = .ok (plainRequest ["doc", "doc/a.tex"]) := by decide
  have hl := loads_found ["doc", "doc/a.tex"]
  have hvs : verdicts ((plainRequest ["doc", "doc/a.tex"]).together (furnished found) () .posix
      .default).answer = .ok [.exited 1, .exited 0] := verdicts_eq_ok_iff.2 together_found
  have hfound : Truthful (furnished found) () .posix (plainRequest ["doc", "doc/a.tex"])
      (session (furnished found) () .posix ["doc", "doc/a.tex"]) := by
    refine exit_status_truthful hr (.inr ⟨none, hl.configPath_eq⟩) ?_
    intro path settings hl'
    obtain ⟨rfl, rfl⟩ := hl.unique hl'
    exact ⟨_, hvs⟩
  have hno := not_loads_misled ["doc", "doc/a.tex"]
  have hmisled : Truthful (furnished misled) () .posix (plainRequest ["doc", "doc/a.tex"])
      (session (furnished misled) () .posix ["doc", "doc/a.tex"]) := by
    refine exit_status_truthful hr (.inr ⟨_, configPath_misled⟩) ?_
    intro path settings hl'
    exact absurd ⟨path, settings, hl'⟩ hno
  refine ⟨hr, ⟨hfound.zero_or_one.resolve_left fun hzero => ?_, ?_⟩, (hmisled.refuses hno).1⟩
  · obtain ⟨path, settings, vs, hl', hvs', hgood⟩ := hfound.zero_iff.1 hzero
    obtain ⟨rfl, rfl⟩ := hl.unique hl'
    obtain rfl := Except.ok.inj (hvs.symm.trans hvs')
    exact absurd (hgood _ (.head _)) (by decide)
  · obtain ⟨vs, p, hvs', hp⟩ := hfound.attempts none .default hl
    obtain rfl := Except.ok.inj (hvs.symm.trans hvs')
    exact ⟨p, hp⟩

end Typeset.CommandLine
