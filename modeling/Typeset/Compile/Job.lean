import Typeset.Runner

/-!
Jobs: computations that ask the world one thing at a time and wait for the answer. A job looks at the
host, probes a program, starts a child, or writes; everything between two questions is pure. `run`
answers the questions of a job from a world and logs what the job did. Where a job pauses, others may
go on: `runTogether` lets several jobs take turns.
-/

namespace Typeset

inductive Stage
  | resolveTarget
  | findExecutable
  | probe
  | locateTexmf
  | composeOverlay
  | buildArguments
  | spawn
  deriving DecidableEq

/-- A computation that talks to the world. -/
inductive Job (α : Type) : Type
  | done (a : α)
  | enter (s : Stage) (next : Job α)
  | write (w : Write) (next : Job α)
  | look (next : Host → Job α)
  | probe (c : Probe.Call) (next : Probe.Outcome → Job α)
  | spawn (s : Spawn) (next : Launch → Job α)
  | pause (next : Job α)

/-- What a job did, as far as others can see it. -/
inductive Effect
  | entered (s : Stage)
  | wrote (w : Write)
  | probed (c : Probe.Call)
  | spawned (s : Spawn)
  deriving DecidableEq

/-- What answers the questions of jobs. Answers may change its state. -/
structure World (σ : Type) where
  host : σ → Host
  probe : Probe.Call → σ → Probe.Outcome × σ
  launch : Spawn → σ → Launch × σ

/-- A job that has come to its end. -/
structure Trace (σ α : Type) where
  answer : α
  state : σ
  effects : List Effect

namespace Job

variable {α β σ : Type}

/-- Goes on with a second job where the first one ends. -/
protected def bind : Job α → (α → Job β) → Job β
  | .done a, f => f a
  | .enter s next, f => .enter s (next.bind f)
  | .write w next, f => .write w (next.bind f)
  | .look next, f => .look fun h => (next h).bind f
  | .probe c next, f => .probe c fun o => (next o).bind f
  | .spawn s next, f => .spawn s fun l => (next l).bind f
  | .pause next, f => .pause (next.bind f)

instance : Monad Job where
  pure := .done
  bind := Job.bind

def say : List Write → Job Unit
  | [] => .done ()
  | w :: ws => .write w (say ws)

def ask : Job Host := .look .done

def run (w : World σ) (s : σ) : Job α → Trace σ α
  | .done a => ⟨a, s, []⟩
  | .enter stage next =>
    let t := run w s next
    { t with effects := .entered stage :: t.effects }
  | .write text next =>
    let t := run w s next
    { t with effects := .wrote text :: t.effects }
  | .look next => run w s (next (w.host s))
  | .probe c next =>
    let t := run w (w.probe c s).2 (next (w.probe c s).1)
    { t with effects := .probed c :: t.effects }
  | .spawn p next =>
    let t := run w (w.launch p s).2 (next (w.launch p s).1)
    { t with effects := .spawned p :: t.effects }
  | .pause next => run w s next

/-- Runs a job up to its next pause; the answer is what is left of the job. -/
def turn (w : World σ) (s : σ) : Job α → Trace σ (Job α)
  | .done a => ⟨.done a, s, []⟩
  | .enter stage next =>
    let t := turn w s next
    { t with effects := .entered stage :: t.effects }
  | .write text next =>
    let t := turn w s next
    { t with effects := .wrote text :: t.effects }
  | .look next => turn w s (next (w.host s))
  | .probe c next =>
    let t := turn w (w.probe c s).2 (next (w.probe c s).1)
    { t with effects := .probed c :: t.effects }
  | .spawn p next =>
    let t := turn w (w.launch p s).2 (next (w.launch p s).1)
    { t with effects := .spawned p :: t.effects }
  | .pause next => ⟨next, s, []⟩

def each (step : σ → Job α → Trace σ β) (s : σ) : List (Job α) → Trace σ (List β)
  | [] => ⟨[], s, []⟩
  | j :: js =>
    let t := step s j
    let rest := each step t.state js
    ⟨t.answer :: rest.answer, rest.state, t.effects ++ rest.effects⟩

def runAll (w : World σ) : σ → List (Job α) → Trace σ (List α) := each (run w)

/-- Runs jobs that take turns: in each round every job goes on to its next pause, and after the last
round each one goes on to its end. -/
def runTogether (w : World σ) : (rounds : Nat) → σ → List (Job α) → Trace σ (List α)
  | 0, s, js => runAll w s js
  | rounds + 1, s, js =>
    let t := each (turn w) s js
    let rest := runTogether w rounds t.state t.answer
    { rest with effects := t.effects ++ rest.effects }

@[simp] theorem bind_done (a : α) (f : α → Job β) : (Job.done a).bind f = f a := rfl

@[simp] theorem say_nil : say [] = .done () := rfl

theorem bind_assoc {γ : Type} (j : Job α) (f : α → Job β) (g : β → Job γ) :
    (j.bind f).bind g = j.bind fun a => (f a).bind g := by
  induction j with
  | done a => rfl
  | enter s next ih => simp only [Job.bind, ih]
  | write w next ih => simp only [Job.bind, ih]
  | look next ih => simp only [Job.bind, ih]
  | probe c next ih => simp only [Job.bind, ih]
  | spawn s next ih => simp only [Job.bind, ih]
  | pause next ih => simp only [Job.bind, ih]

theorem run_bind (w : World σ) (s : σ) (j : Job α) (f : α → Job β) :
    (j.bind f).run w s =
      let t := j.run w s
      let u := (f t.answer).run w t.state
      { u with effects := t.effects ++ u.effects } := by
  induction j generalizing s with
  | done a => rfl
  | enter s next ih => simp only [Job.bind, run, ih]; rfl
  | write text next ih => simp only [Job.bind, run, ih]; rfl
  | look next ih => simp only [Job.bind, run, ih]
  | probe c next ih => simp only [Job.bind, run, ih]; rfl
  | spawn p next ih => simp only [Job.bind, run, ih]; rfl
  | pause next ih => simp only [Job.bind, run, ih]

theorem length_answer_each (step : σ → Job α → Trace σ β) (s : σ) (js : List (Job α)) :
    (each step s js).answer.length = js.length := by
  induction js generalizing s with
  | nil => rfl
  | cons j js ih => simp [each, ih]

theorem length_answer_runTogether (w : World σ) (rounds : Nat) (s : σ) (js : List (Job α)) :
    (runTogether w rounds s js).answer.length = js.length := by
  induction rounds generalizing s js with
  | zero => exact length_answer_each _ s js
  | succ n ih => simp [runTogether, ih, length_answer_each]

end Job

def Effect.write? : Effect → Option Write
  | .wrote w => some w
  | _ => none

def Effect.probe? : Effect → Option Probe.Call
  | .probed c => some c
  | _ => none

def Effect.spawn? : Effect → Option Spawn
  | .spawned s => some s
  | _ => none

def Effect.stage? : Effect → Option Stage
  | .entered s => some s
  | _ => none

end Typeset
