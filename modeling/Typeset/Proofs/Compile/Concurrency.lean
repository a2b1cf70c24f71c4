import Typeset.CommandLine.Session
import Typeset.Proofs.Compile.ChildEnvironment
import Typeset.Proofs.Compile.Interleaving

/-!
# Compiles side by side

The compiles of several documents share a context and a console, and their steps may be interleaved
in any way. As long as what one of them asks for does not change what another one is answered, each
of them does what it does alone.
-/

namespace Typeset

namespace CommandLine

theorem verdicts_cons_ok (v : Verdict) (answers : List (Except Fault Verdict)) :
    verdicts (.ok v :: answers) = (verdicts answers).map (v :: ·) := by
  simp only [verdicts, List.mapM_cons]
  rfl

/-- There is a verdict for every document if no fault ends a compile. -/
theorem exists_verdicts {answers : List (Except Fault Verdict)}
    (h : ∀ a ∈ answers, ∃ v, a = .ok v) : ∃ vs, verdicts answers = .ok vs ∧ answers = vs.map .ok := by
  induction answers with
  | nil => exact ⟨[], rfl, rfl⟩
  | cons a answers ih =>
    obtain ⟨v, rfl⟩ := h a (.head _)
    obtain ⟨vs, hvs, rfl⟩ := ih fun a ha => h a (.tail _ ha)
    exact ⟨v :: vs, by rw [verdicts_cons_ok, hvs]; rfl, rfl⟩

end CommandLine

namespace Compile
open CommandLine

variable {σ τ : Type}

theorem getElem?_compileMany (ctx : Context) {paths : List String} {i : Nat} {path : String}
    (h : paths[i]? = some path) : (compileMany ctx paths)[i]? = some (compile ctx path) := by
  rw [compileMany, List.getElem?_map, h, Option.map_some]

theorem exists_path_of_getElem?_compileMany {ctx : Context} {paths : List String} {i : Nat}
    {j : Job (Except Fault Verdict)} (h : (compileMany ctx paths)[i]? = some j) :
    ∃ path, paths[i]? = some path ∧ compile ctx path = j := by
  rwa [compileMany, List.getElem?_map, Option.map_eq_some_iff] at h

/-- What can be said at any time of compiles that are interleaved by a schedule. They return exactly
if each document was given as many steps as it takes alone. Then there is one verdict for each
document, in their order, and it is the one that the document gets alone. What was done for a document
is then what is done for it alone, and before that it is the beginning of this. Nothing is done but
for one of the documents. -/
structure Undisturbed (w : Nat → World σ) (s : σ) (ctx : Context) (paths : List String)
    (schedule : List Nat) (p : Pool σ (Except Fault Verdict)) : Prop where
  returns_iff : (∃ answers, p.answers? = some answers) ↔
    ∀ i path, paths[i]? = some path → (compile ctx path).length (w i) s ≤ schedule.count i
  verdicts : ∀ answers, p.answers? = some answers → ∃ vs, CommandLine.verdicts answers = .ok vs ∧
    vs.length = paths.length ∧ ∀ i path, paths[i]? = some path →
      ∃ v, vs[i]? = some v ∧ ((compile ctx path).run (w i) s).answer = .ok v
  effects : ∀ answers, p.answers? = some answers → ∀ i path, paths[i]? = some path →
    Pool.effectsOf i p.log = ((compile ctx path).run (w i) s).effects
  effects_prefix : ∀ i path, paths[i]? = some path →
    Pool.effectsOf i p.log <+: ((compile ctx path).run (w i) s).effects
  lt_of_mem_log : ∀ e ∈ p.log, e.1 < paths.length

section Apart
variable {w : Nat → World σ} {part : Nat → σ → τ} (hw : World.Apart w part) {s : σ} {ctx : Context}
  {paths : List String} {schedule : List Nat} {answers : List (Except Fault Verdict)}
include hw

/-- Compiles return exactly if each is given its steps, and then they answer in their order. -/
theorem answers?_compileMany_eq_some_iff :
    ((Pool.start s (compileMany ctx paths)).follow w schedule).answers? = some answers ↔
      (∀ i path, paths[i]? = some path → (compile ctx path).length (w i) s ≤ schedule.count i) ∧
        answers = paths.mapIdx fun i path => ((compile ctx path).run (w i) s).answer := by
  have hanswers : ((compileMany ctx paths).mapIdx fun i j => (j.run (w i) s).answer) =
      paths.mapIdx fun i path => ((compile ctx path).run (w i) s).answer := by
    apply List.ext_getElem?
    intro i
    simp only [compileMany, List.getElem?_mapIdx, List.getElem?_map, Option.map_map,
      Function.comp_def]
  rw [Pool.answers?_follow_eq_some_iff hw, hanswers]
  apply and_congr_left
  rintro -
  constructor
  · intro h i path hi
    exact h i _ (getElem?_compileMany ctx hi)
  · intro h i j hj
    obtain ⟨path, hi, rfl⟩ := exists_path_of_getElem?_compileMany hj
    exact h i path hi

theorem undisturbed_follow (hreturn : ∀ i path, paths[i]? = some path →
      ∃ v, ((compile ctx path).run (w i) s).answer = .ok v) (schedule : List Nat) :
    Undisturbed w s ctx paths schedule
      ((Pool.start s (compileMany ctx paths)).follow w schedule) where
  returns_iff := by
    simp only [answers?_compileMany_eq_some_iff hw, exists_and_left, exists_eq, and_true]
  verdicts := by
    intro answers h
    obtain ⟨-, rfl⟩ := (answers?_compileMany_eq_some_iff hw).1 h
    have hok : ∀ a ∈ paths.mapIdx fun i path => ((compile ctx path).run (w i) s).answer,
        ∃ v, a = .ok v := by
      intro a ha
      obtain ⟨i, hi, rfl⟩ := List.mem_mapIdx.1 ha
      exact hreturn i _ (List.getElem?_eq_getElem hi)
    obtain ⟨vs, hvs, hmap⟩ := exists_verdicts hok
    refine ⟨vs, hvs, by simpa using (congrArg List.length hmap).symm, ?_⟩
    intro i path hi
    have hanswer := congrArg (·[i]?) hmap
    simp only [List.getElem?_mapIdx, hi, Option.map_some, List.getElem?_map] at hanswer
    obtain ⟨v, hv, ha⟩ := Option.map_eq_some_iff.1 hanswer.symm
    exact ⟨v, hv, ha.symm⟩
  effects := by
    intro answers h i path hi
    obtain ⟨hlength, -⟩ := (answers?_compileMany_eq_some_iff hw).1 h
    exact Pool.effectsOf_follow_of_length_le hw (getElem?_compileMany ctx hi) (hlength i path hi)
  effects_prefix i path hi :=
    Pool.effectsOf_follow_prefix hw s (getElem?_compileMany ctx hi) schedule
  lt_of_mem_log := by
    intro e he
    have h := Pool.lt_of_mem_log_follow (p := Pool.start s (compileMany ctx paths))
      (by rintro _ ⟨⟩) e he
    rwa [Pool.start, length_compileMany] at h

end Apart

/-- Documents that are compiled together do not disturb each other. What each of them is answered is
fixed, whatever else their worlds share, and each compile returns when it is alone. Then no
interleaving of their steps changes what becomes of a compile. The turns that compiles take when they
are run together are such an interleaving. -/
theorem compiles_undisturbed {w : Nat → World σ} {part : Nat → σ → τ} (hw : World.Apart w part)
    (s : σ) (ctx : Context) (paths : List String)
    (hreturn : ∀ i path, paths[i]? = some path →
      ∃ v, ((compile ctx path).run (w i) s).answer = .ok v) :
    (∀ schedule, Undisturbed w s ctx paths schedule
      ((Pool.start s (compileMany ctx paths)).follow w schedule)) ∧
    ∀ (u : World σ) rounds, ∃ schedule,
      ((Pool.start s (compileMany ctx paths)).follow (fun _ => u) schedule).trace =
        (Job.runTogether u rounds s (compileMany ctx paths)).ended := by
  refine ⟨undisturbed_follow hw hreturn, ?_⟩
  intro u rounds
  obtain ⟨schedule, h⟩ :=
    Pool.exists_schedule_runTogether u rounds (Pool.start s (compileMany ctx paths))
  exact ⟨schedule, h⟩

/-- The first document finds a compiler that does not tell its version, the others find one that
works. All of them count the requests that are made. -/
def uneven (i : Nat) : World Nat where
  host _ := twoCompilers
  probe _ n := (.finished (if i = 0 then 3 else 0) "" "", n + 1)
  launch _ n := (.started (.ending 7 [(.output, [0x61])] 0), n + 1)

theorem apart_uneven : World.Apart uneven fun _ _ => () := by
  constructor <;> intros <;> first | rfl | exact ⟨rfl, rfl⟩

theorem answer_uneven_zero :
    ((compile (searching "/bin") "doc/a.tex").run (uneven 0) 0).answer =
      .ok (.failed (.probeExit "/bin/texi2dvi" 3 "")) := by
  have hj : judged (searching "/bin") (.ofText "/bin/texi2dvi")
      ((uneven 0).probe (probeCall (searching "/bin") (.ofText "/bin/texi2dvi")) 0).1 =
        .error (.failure (.probeExit (PosixPath.ofText "/bin/texi2dvi").toText 3 "")) := rfl
  have htext : (PosixPath.ofText "/bin/texi2dvi").toText = "/bin/texi2dvi" := by decide
  rw [htext] at hj
  rw [run_compile_stopped
    (attempt_preparation_of_unprobed targetOn_twoCompilers executableOn_root_bin hj)]
  rfl

theorem answer_uneven_succ (i : Nat) :
    ((compile (searching "/bin") "doc/a.tex").run (uneven (i + 1)) 0).answer =
      .ok (.exited 0) := by
  have hj : judged (searching "/bin") (.ofText "/bin/texi2dvi")
      ((uneven (i + 1)).probe (probeCall (searching "/bin") (.ofText "/bin/texi2dvi")) 0).1 =
        .ok ⟨"", .ofVersionText ""⟩ := rfl
  rw [run_compile_real
    (attempt_preparation_of_planned targetOn_twoCompilers executableOn_root_bin hj
      (planFault?_twoCompilers _)) rfl]
  rfl

/-- One document twice: one of its compiles fails, the other one does not, and neither disturbs the
other. -/
theorem compiles_undisturbed_uneven :
    World.Apart uneven (fun _ _ => ()) ∧
    ((compile (searching "/bin") "doc/a.tex").run (uneven 0) 0).answer =
      .ok (.failed (.probeExit "/bin/texi2dvi" 3 "")) ∧
    ((compile (searching "/bin") "doc/a.tex").run (uneven 1) 0).answer = .ok (.exited 0) ∧
    ∀ schedule, Undisturbed uneven 0 (searching "/bin") ["doc/a.tex", "doc/a.tex"] schedule
      ((Pool.start 0 (compileMany (searching "/bin") ["doc/a.tex", "doc/a.tex"])).follow uneven
        schedule) := by
  have hreturn : ∀ i path, ["doc/a.tex", "doc/a.tex"][i]? = some path →
      ∃ v, ((compile (searching "/bin") path).run (uneven i) 0).answer = .ok v := by
    intro i path hi
    match i with
    | 0 =>
      cases hi
      exact ⟨_, answer_uneven_zero⟩
    | 1 =>
      cases hi
      exact ⟨_, answer_uneven_succ 0⟩
    | i + 2 => cases hi
  exact ⟨apart_uneven, answer_uneven_zero, answer_uneven_succ 0,
    (compiles_undisturbed apart_uneven 0 _ _ hreturn).1⟩

end Compile
end Typeset
