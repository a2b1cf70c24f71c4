import Typeset.Proofs.Compile.Course

/-!
# Reports

Up to the launch a compile writes nothing but diagnostics, which go to the output channel at every
level. So the error channel is left to the compiler's own text or to the one report of a failure.
-/

namespace Typeset

namespace Console
variable {c : Console} {a : Write}

/-- A line that a console writes by itself. -/
def IsDiagnostic (c : Console) (a : Write) : Prop :=
  ∃ message, a ∈ c.debug message ∨ a ∈ c.info message ∨ a ∈ c.dry message

theorem IsDiagnostic.channel_eq (h : c.IsDiagnostic a) : a.channel = .output := by
  have hline : ∀ {p : Prop} [Decidable p] {label message : String},
      a ∈ (if p then [labelled .output label message] else []) → a.channel = .output := by
    intro p _ label message ha
    split at ha
    · rw [List.mem_singleton.1 ha]
      rfl
    · cases ha
  obtain ⟨message, h | h | h⟩ := h
  · exact hline h
  · exact hline h
  · exact hline h

theorem filter_error_of_isDiagnostic {ws : List Write} (h : ∀ a ∈ ws, c.IsDiagnostic a) :
    ws.filter (·.channel = .error) = [] := by
  rw [List.filter_eq_nil_iff]
  intro a ha
  rw [(h a ha).channel_eq]
  decide

/-- Among diagnostics a report is all that goes to the error channel. -/
theorem filter_error_concat {ws : List Write} (h : ∀ a ∈ ws, c.IsDiagnostic a) (text : String) :
    (ws ++ [Write.mk .error text]).filter (·.channel = .error) = [⟨.error, text⟩] := by
  rw [List.filter_append, filter_error_of_isDiagnostic h]
  rfl

theorem isDiagnostic_of_mem_concat {ws : List Write} (h : ∀ a ∈ ws, c.IsDiagnostic a)
    {text : String} (ha : a ∈ ws ++ [⟨.error, text⟩]) (hc : a.channel = .output) :
    c.IsDiagnostic a := by
  rcases List.mem_append.1 ha with ha | ha
  · exact h a ha
  · rw [List.mem_singleton.1 ha] at hc
    cases hc

theorem textOn_error_between {before after : List Write} (hb : ∀ a ∈ before, c.IsDiagnostic a)
    (ha : ∀ a ∈ after, c.IsDiagnostic a) (ws : List Write) :
    Write.textOn .error (before ++ (ws ++ after)) = Write.textOn .error ws := by
  simp only [Write.textOn, List.filter_append, filter_error_of_isDiagnostic hb,
    filter_error_of_isDiagnostic ha, List.nil_append, List.append_nil]

end Console

namespace Launch
open Text.Utf8

theorem textOn_error_heard (c : Child) :
    Write.textOn .error (started c).heard = String.ofList (decode (c.bytesOn .error)) := by
  have hheard : c.heard .empty .both = c.readOut .both := c.heard_of_not_isOpen c.isOpen_empty _
  show String.join ((c.heard .empty .both).texts .error) = _
  rw [hheard]
  exact c.join_texts_readOut c.not_failed_readOut_both (by rintro ⟨⟩)

end Launch

namespace Compile
open Job Effect

variable {σ : Type} {w : World σ} {s s' : σ} {ctx : Context} {path : String} {stop : Stop}
variable {target : PosixPath} {p : Plan} {es : List Effect}

theorem isDiagnostic_of_mem_plannedLines {executable : PosixPath} {t : Toolchain}
    {tree : Option Texmf} {a : Write} (ha : a ∈ plannedLines ctx executable t tree) :
    ctx.console.IsDiagnostic a := by
  rcases List.mem_append.1 ha with ha | ha
  · rcases List.mem_append.1 ha with ha | ha
    · exact ⟨_, .inl ha⟩
    · exact ⟨_, .inl ha⟩
  · unfold locatedLines at ha
    split at ha
    · exact ⟨_, .inl ha⟩
    · cases ha

theorem isDiagnostic_of_preparation {a : Except Stop (PosixPath × Plan)}
    (h : attempt w s (preparation ctx path) = ⟨a, s', es⟩) :
    ∀ b ∈ es.filterMap write?, ctx.console.IsDiagnostic b := by
  have hp := prepared_preparation w s ctx path
  rw [h] at hp
  cases hp with
  | unresolved ht => rintro b ⟨⟩
  | notFound ht hf => rintro b ⟨⟩
  | unprobed ht hf hj =>
    intro b hb
    rw [writes_unprobed] at hb
    exact ⟨_, .inl hb⟩
  | unlocated ht hf hj hl =>
    intro b hb
    rw [writes_unlocated] at hb
    exact isDiagnostic_of_mem_plannedLines (List.mem_append_left (locatedLines ctx none) hb)
  | uncomposed ht hf hj hl hc =>
    intro b hb
    rw [writes_composedEffects] at hb
    exact isDiagnostic_of_mem_plannedLines hb
  | planned ht hf hj hp =>
    intro b hb
    rw [writes_plannedEffects] at hb
    exact isDiagnostic_of_mem_plannedLines hb

theorem writes_compile_stopped (h : attempt w s (preparation ctx path) = ⟨.error stop, s', es⟩) :
    ((compile ctx path).run w s).writes =
      es.filterMap write? ++ reportLines ctx (.error stop) := by
  rw [run_compile_stopped h, Trace.writes, List.filterMap_append, filterMap_write?_wrote]

theorem writes_compile_dry (h : attempt w s (preparation ctx path) = ⟨.ok (target, p), s', es⟩)
    (hd : ctx.console.dryRun = true) :
    ((compile ctx path).run w s).writes =
      es.filterMap write? ++ (planLines p).flatMap ctx.console.dry := by
  rw [run_compile_dry h hd, Trace.writes, List.filterMap_append, filterMap_write?_wrote]

theorem writes_compile_real (h : attempt w s (preparation ctx path) = ⟨.ok (target, p), s', es⟩)
    (hd : ctx.console.dryRun = false) :
    ((compile ctx path).run w s).writes =
      let l := (w.launch (spawnOf ctx p) s').1
      es.filterMap write? ++ ctx.console.info ("Compiling " ++ target.toText) ++
        (l.heard ++ closingLines ctx target (l.answer p) ++ reportLines ctx (l.answer p)) := by
  rw [run_compile_real h hd]
  simp only [Trace.writes, List.filterMap_append, List.filterMap_cons, filterMap_write?_wrote,
    write?]

theorem verdictOf_error_eq_iff (stop : Stop) (v : Verdict) :
    verdictOf (.error stop) = .ok v ↔ ∃ f, stop = .failure f ∧ v = .failed f := by
  cases stop with
  | failure f => simp [verdictOf, eq_comm]
  | fault f => simp [verdictOf]

/-- What is said of a failure: it was reported once, and nothing of a compiler was passed on. -/
structure ReportsOnce (w : World σ) (s : σ) (ctx : Context) (f : Failure)
    (t : Trace σ (Except Fault Verdict)) : Prop where
  filter_error : t.writes.filter (·.channel = .error) = [⟨.error, f.summary ++ "\n"⟩]
  isDiagnostic : ∀ a ∈ t.writes, a.channel = .output → ctx.console.IsDiagnostic a
  not_started : ∀ executable, executableOn ctx (w.host s) = some executable → ∀ sp ∈ t.spawns, ∀ c,
    (w.launch sp (afterProbe w s ctx executable)).1 ≠ .started c

/-- What is said of a status: nothing was reported, and the error channel was left to the compiler. -/
structure PassesOn (w : World σ) (s : σ) (ctx : Context) (status : Int)
    (t : Trace σ (Except Fault Verdict)) : Prop where
  of_dry : ctx.console.dryRun = true → t.writes.filter (·.channel = .error) = []
  of_real : ctx.console.dryRun = false → ∃ executable sp c,
    executableOn ctx (w.host s) = some executable ∧ t.spawns = [sp] ∧
    (w.launch sp (afterProbe w s ctx executable)).1 = .started c ∧ c.status = status ∧
    Write.textOn .error t.writes = String.ofList (Text.Utf8.decode (c.bytesOn .error))

theorem reportsOnce_of_stopped {f : Failure}
    (h : attempt w s (preparation ctx path) = ⟨.error (.failure f), s', es⟩) :
    ReportsOnce w s ctx f ((compile ctx path).run w s) := by
  have hw : ((compile ctx path).run w s).writes =
      es.filterMap write? ++ [⟨.error, f.summary ++ "\n"⟩] := writes_compile_stopped h
  refine ⟨?_, ?_, ?_⟩
  · rw [hw]
    exact Console.filter_error_concat (isDiagnostic_of_preparation h) _
  · rw [hw]
    exact fun a ha => Console.isDiagnostic_of_mem_concat (isDiagnostic_of_preparation h) ha
  · rw [spawns_compile_stopped h]
    rintro _ _ _ ⟨⟩

section Launched
variable {executable : PosixPath} {tree : Option Texmf}
  (h : attempt w s (preparation ctx path) = ⟨.ok (target, p), afterProbe w s ctx executable, es⟩)
  (hf : executableOn ctx (w.host s) = some executable) (hd : ctx.console.dryRun = false)
include h

theorem isDiagnostic_of_announced {a : Write}
    (ha : a ∈ es.filterMap write? ++ ctx.console.info ("Compiling " ++ target.toText)) :
    ctx.console.IsDiagnostic a := by
  rcases List.mem_append.1 ha with ha | ha
  · exact isDiagnostic_of_preparation h a ha
  · exact ⟨_, .inr (.inl ha)⟩

include hf hd

theorem reportsOnce_of_refused {e : SystemError}
    (hl : (w.launch (spawnOf ctx p) (afterProbe w s ctx executable)).1 = .refused e) :
    ReportsOnce w s ctx (.launch p.executable.toText e.reason) ((compile ctx path).run w s) := by
  have hw : ((compile ctx path).run w s).writes =
      es.filterMap write? ++ ctx.console.info ("Compiling " ++ target.toText) ++
        [⟨.error, (Failure.launch p.executable.toText e.reason).summary ++ "\n"⟩] := by
    rw [writes_compile_real h hd, hl]
    rfl
  refine ⟨?_, ?_, ?_⟩
  · rw [hw]
    exact Console.filter_error_concat (fun a => isDiagnostic_of_announced h) _
  · rw [hw]
    exact fun a ha => Console.isDiagnostic_of_mem_concat (fun a => isDiagnostic_of_announced h) ha
  · intro executable' hf' sp hsp c hc
    rw [spawns_compile_real h hd] at hsp
    obtain rfl := List.mem_singleton.1 hsp
    obtain rfl : executable = executable' := Option.some.inj (hf.symm.trans hf')
    rw [hl] at hc
    cases hc

omit hf in
theorem textOn_error_of_started {c : Child}
    (hl : (w.launch (spawnOf ctx p) (afterProbe w s ctx executable)).1 = .started c) :
    Write.textOn .error ((compile ctx path).run w s).writes =
      String.ofList (Text.Utf8.decode (c.bytesOn .error)) := by
  rw [writes_compile_real h hd, hl, ← Launch.textOn_error_heard]
  simp only [Launch.answer, reportLines, List.append_nil]
  refine Console.textOn_error_between (fun a => isDiagnostic_of_announced h) (fun a ha => ?_) _
  exact ⟨_, .inr (.inl ha)⟩

theorem passesOn_of_started {c : Child}
    (hl : (w.launch (spawnOf ctx p) (afterProbe w s ctx executable)).1 = .started c) :
    PassesOn w s ctx c.status ((compile ctx path).run w s) := by
  refine ⟨fun hdry => ?_, fun _ => ?_⟩
  · rw [hd] at hdry
    cases hdry
  · exact ⟨executable, spawnOf ctx p, c, hf, spawns_compile_real h hd, hl, rfl,
      textOn_error_of_started h hd hl⟩

end Launched

theorem passesOn_of_dry (h : attempt w s (preparation ctx path) = ⟨.ok (target, p), s', es⟩)
    (hd : ctx.console.dryRun = true) (status : Int) :
    PassesOn w s ctx status ((compile ctx path).run w s) := by
  refine ⟨fun _ => ?_, fun hreal => ?_⟩
  · rw [writes_compile_dry h hd]
    apply Console.filter_error_of_isDiagnostic
    intro a ha
    rcases List.mem_append.1 ha with ha | ha
    · exact isDiagnostic_of_preparation h a ha
    · obtain ⟨line, -, ha⟩ := List.mem_flatMap.1 ha
      exact ⟨line, .inr (.inr ha)⟩
  · rw [hd] at hreal
    cases hreal

/-- What is said of either kind of verdict. -/
structure Reported (w : World σ) (s : σ) (ctx : Context)
    (t : Trace σ (Except Fault Verdict)) : Prop where
  of_failed : ∀ f, t.answer = .ok (.failed f) → ReportsOnce w s ctx f t
  of_exited : ∀ status, t.answer = .ok (.exited status) → PassesOn w s ctx status t

theorem reported_of_stopped (h : attempt w s (preparation ctx path) = ⟨.error stop, s', es⟩) :
    Reported w s ctx ((compile ctx path).run w s) := by
  have hanswer : ((compile ctx path).run w s).answer = verdictOf (.error stop) := by
    rw [run_compile_stopped h]
  refine ⟨fun f hf => ?_, fun status hs => ?_⟩
  · rw [hanswer, verdictOf_error_eq_iff] at hf
    obtain ⟨_, rfl, ⟨⟩⟩ := hf
    exact reportsOnce_of_stopped h
  · rw [hanswer, verdictOf_error_eq_iff] at hs
    obtain ⟨_, -, ⟨⟩⟩ := hs

theorem reported_of_dry (h : attempt w s (preparation ctx path) = ⟨.ok (target, p), s', es⟩)
    (hd : ctx.console.dryRun = true) : Reported w s ctx ((compile ctx path).run w s) := by
  refine ⟨fun f hf => ?_, fun status _ => passesOn_of_dry h hd status⟩
  rw [run_compile_dry h hd] at hf
  cases hf

theorem reported_of_real {executable : PosixPath}
    (h : attempt w s (preparation ctx path) = ⟨.ok (target, p), afterProbe w s ctx executable, es⟩)
    (hf : executableOn ctx (w.host s) = some executable) (hd : ctx.console.dryRun = false) :
    Reported w s ctx ((compile ctx path).run w s) := by
  have hanswer : ((compile ctx path).run w s).answer =
      verdictOf ((w.launch (spawnOf ctx p) (afterProbe w s ctx executable)).1.answer p) := by
    rw [run_compile_real h hd]
  -- a refusal is the one failure, and a child the one status, that a launch leads to
  refine ⟨fun f hfail => ?_, fun status hexit => ?_⟩
  · rw [hanswer] at hfail
    cases hl : (w.launch (spawnOf ctx p) (afterProbe w s ctx executable)).1 with
    | refused e =>
      rw [hl] at hfail
      cases hfail
      exact reportsOnce_of_refused h hf hd hl
    | broken e => rw [hl] at hfail; cases hfail
    | started c => rw [hl] at hfail; cases hfail
  · rw [hanswer] at hexit
    cases hl : (w.launch (spawnOf ctx p) (afterProbe w s ctx executable)).1 with
    | refused e => rw [hl] at hexit; cases hexit
    | broken e => rw [hl] at hexit; cases hexit
    | started c =>
      rw [hl] at hexit
      cases hexit
      exact passesOn_of_started h hf hd hl

/-- A compile with a failure wrote one text to the error channel, the report, and no text of a compiler:
none was started, and all that went to the output channel are diagnostics. A compile with a status
reported nothing: the text on its error channel is that of the compiler, if it ran one. -/
theorem failures_reported_once (w : World σ) (s : σ) (ctx : Context) (path : String) :
    Reported w s ctx ((compile ctx path).run w s) := by
  have hp := prepared_preparation w s ctx path
  rcases ha : attempt w s (preparation ctx path) with ⟨stop | ⟨target, p⟩, s', es⟩
  · exact reported_of_stopped ha
  · rw [ha] at hp
    obtain ⟨executable, hf, rfl⟩ := hp.exists_executable
    cases hd : ctx.console.dryRun with
    | true => exact reported_of_dry ha hd
    | false => exact reported_of_real ha hf hd

end Compile
end Typeset
