import Typeset.Proofs.Compile.Reports
import Typeset.Proofs.Host.AtRoot
import Typeset.Proofs.Text.Lines

/-!
# Reports on one line

A report is put together from words of the program and from texts of others: the path of the document,
names of programs, what the system says, and what a probe wrote. The words stay on one line. The texts of
others are shown as they are, so a report goes on to another line wherever one of them does.
-/

namespace Typeset
open Text

namespace Compile
open Job

section Ways
variable {σ : Type} (w : World σ) (s : σ) (ctx : Context) (path : String)

/-- The ways to fail, each with its failure and with the texts of others that are shown. -/
inductive FailsShowing : Failure → List String → Prop
  | unresolved {e : PathError} (hr : (w.host s).resolve path = .error e)
      (he : ∀ flaw, e ≠ .flawed flaw) : FailsShowing (.targetPath path e.message) [path]
  | notFound {target : PosixPath} (ht : targetOn (w.host s) path = .ok target)
      (hf : executableOn ctx (w.host s) = none) :
      FailsShowing (.toolNotFound ctx.settings.program) [ctx.settings.program]
  | timedOut {target executable : PosixPath} (ht : targetOn (w.host s) path = .ok target)
      (hf : executableOn ctx (w.host s) = some executable)
      (ho : (w.probe (probeCall ctx executable) s).1 = .timedOut)
      (hl : ctx.settings.probeTimeout.toReal?.isSome = true) :
      FailsShowing (.probeTimeout executable.toText ctx.settings.probeTimeout) [executable.toText]
  | refused {target executable : PosixPath} {e : SystemError}
      (ht : targetOn (w.host s) path = .ok target)
      (hf : executableOn ctx (w.host s) = some executable)
      (ho : (w.probe (probeCall ctx executable) s).1 = .refused e) :
      FailsShowing (.probeLaunch executable.toText e.reason) [executable.toText, e.reason]
  /-- A probe that fails is reported in its own words, if it has any. -/
  | exited {target executable : PosixPath} {status : Int} {output errors : String}
      (ht : targetOn (w.host s) path = .ok target)
      (hf : executableOn ctx (w.host s) = some executable)
      (ho : (w.probe (probeCall ctx executable) s).1 = .finished status output errors)
      (hs : status ≠ 0) :
      FailsShowing (.probeExit executable.toText status errors)
        [if isBlankText errors then executable.toText else dropFinalNewlines errors]
  | unlaunched {target executable : PosixPath} {t : Toolchain} {p : Plan} {e : SystemError}
      (ht : targetOn (w.host s) path = .ok target)
      (hf : executableOn ctx (w.host s) = some executable)
      (hj : judged ctx executable (w.probe (probeCall ctx executable) s).1 = .ok t)
      (hp : p = planOn ctx (w.host (afterProbe w s ctx executable)) executable t target)
      (hl : (w.launch (spawnOf ctx p) (afterProbe w s ctx executable)).1 = .refused e) :
      FailsShowing (.launch executable.toText e.reason) [executable.toText, e.reason]

end Ways

section Lines
variable {σ : Type} {w : World σ} {s : σ} {ctx : Context} {path : String} {f : Failure}
  {texts : List String}

theorem unbroken_message (e : PathError) : Unbroken e.message := by
  cases e with
  | flawed flaw => cases flaw <;> decide
  | noWorkingDirectory => decide
  | linkCircle looped => exact unbroken_append.2 ⟨by decide, Literal.unbroken_ofText looped⟩

/-- The words of the program have no line end, so a report has only those of the texts it shows. -/
theorem FailsShowing.unbroken_iff (h : FailsShowing w s ctx path f texts) :
    Unbroken f.summary ↔ ∀ x ∈ texts, Unbroken x := by
  have hcolon : Unbroken ": " := by decide
  cases h with
  | @unresolved e hr he =>
    have hresolve : Unbroken "Unable to resolve " := by decide
    show Unbroken ("Unable to resolve " ++ path ++ ": " ++ _) ↔ _
    simp [unbroken_append, hresolve, hcolon, unbroken_message e]
  | notFound ht hf =>
    have hfind : Unbroken "can't find " := by decide
    show Unbroken ("can't find " ++ ctx.settings.program) ↔ _
    simp [unbroken_append, hfind]
  | @timedOut _ executable ht hf ho hl =>
    have hanswer : Unbroken " did not answer the version probe within " := by decide
    have hseconds : Unbroken "s" := by decide
    obtain ⟨x, hx⟩ := Option.isSome_iff_exists.1 hl
    have hlimit : ctx.settings.probeTimeout.general?.getD ctx.settings.probeTimeout.toText =
        x.general := by
      rw [Number.general?, hx]
      rfl
    show Unbroken (executable.toText ++ _ ++ ctx.settings.probeTimeout.general?.getD _ ++ "s") ↔ _
    rw [hlimit]
    simp [unbroken_append, hanswer, hseconds, Binary64.unbroken_general x]
  | @refused _ executable e ht hf ho =>
    have hrun : Unbroken "Unable to run " := by decide
    show Unbroken ("Unable to run " ++ executable.toText ++ ": " ++ e.reason) ↔ _
    simp [unbroken_append, hrun, hcolon]
  | @exited _ executable status _ errors ht hf ho hs =>
    have hcode : Unbroken " exited with code " := by decide
    have hprobing : Unbroken " while probing its version" := by decide
    rw [Failure.summary]
    split
    next =>
      show Unbroken (executable.toText ++ _ ++ toString status ++ _) ↔ _
      simp [unbroken_append, hcode, hprobing, unbroken_repr_int]
    next => rw [List.forall_mem_singleton]
  | @unlaunched _ executable _ _ e ht hf hj hp hl =>
    have hlaunch : Unbroken "Unable to launch " := by decide
    show Unbroken ("Unable to launch " ++ executable.toText ++ ": " ++ e.reason) ↔ _
    simp [unbroken_append, hlaunch, hcolon]

theorem FailsShowing.not_blank (h : FailsShowing w s ctx path f texts) :
    isBlankText f.summary = false := by
  -- a word of the program is enough, also where the texts of others are blank
  cases h with
  | unresolved hr he =>
    have hword : isBlankText "Unable to resolve " = false := by decide
    show isBlankText ("Unable to resolve " ++ path ++ ": " ++ _) = false
    simp [isBlankText_append, hword]
  | notFound ht hf =>
    have hword : isBlankText "can't find " = false := by decide
    show isBlankText ("can't find " ++ ctx.settings.program) = false
    simp [isBlankText_append, hword]
  | @timedOut _ executable ht hf ho hl =>
    have hword : isBlankText "s" = false := by decide
    show isBlankText (executable.toText ++ _ ++ _ ++ "s") = false
    simp [isBlankText_append, hword]
  | @refused _ executable e ht hf ho =>
    have hword : isBlankText "Unable to run " = false := by decide
    show isBlankText ("Unable to run " ++ executable.toText ++ ": " ++ e.reason) = false
    simp [isBlankText_append, hword]
  | @exited _ executable status _ errors ht hf ho hs =>
    rw [Failure.summary]
    split
    next =>
      have hword : isBlankText " while probing its version" = false := by decide
      show isBlankText (executable.toText ++ _ ++ _ ++ " while probing its version") = false
      simp [isBlankText_append, hword]
    next hb => rw [isBlankText_dropFinalNewlines, Bool.eq_false_iff.2 hb]
  | @unlaunched _ executable _ _ e ht hf hj hp hl =>
    have hword : isBlankText "Unable to launch " = false := by decide
    show isBlankText ("Unable to launch " ++ executable.toText ++ ": " ++ e.reason) = false
    simp [isBlankText_append, hword]

theorem FailsShowing.texts_eq_of_targetPath {shown reason : String}
    (h : FailsShowing w s ctx path (.targetPath shown reason) texts) : texts = [path] := by
  cases h with
  | unresolved hr he => rfl

theorem resolve_of_targetOn_failure (ht : targetOn (w.host s) path = .error (.failure f)) :
    ∃ e, (w.host s).resolve path = .error e ∧ (∀ flaw, e ≠ .flawed flaw) ∧
      f = .targetPath path e.message := by
  rw [targetOn] at ht
  split at ht
  · cases ht
  · cases ht
  next e hne hr =>
    cases ht
    exact ⟨e, hr, hne, rfl⟩

theorem exists_failsShowing_of_judged {target executable : PosixPath}
    (ht : targetOn (w.host s) path = .ok target)
    (hf : executableOn ctx (w.host s) = some executable)
    (hj : judged ctx executable (w.probe (probeCall ctx executable) s).1 = .error (.failure f)) :
    ∃ texts, FailsShowing w s ctx path f texts := by
  rw [judged] at hj
  cases ho : (w.probe (probeCall ctx executable) s).1 with
  | finished status output errors =>
    rw [ho, Probe.judge] at hj
    split at hj
    · cases hj
    next hs =>
      cases hj
      exact ⟨_, .exited ht hf ho hs⟩
  | timedOut =>
    rw [ho, Probe.judge] at hj
    split at hj
    next hl =>
      cases hj
      exact ⟨_, .timedOut ht hf ho hl⟩
    · cases hj
  | refused e =>
    rw [ho, Probe.judge] at hj
    cases hj
    exact ⟨_, .refused ht hf ho⟩
  | broken e =>
    rw [ho, Probe.judge] at hj
    cases hj

/-- A compile that fails does so in one of the ways, and its report is all that it writes to the error
channel. -/
theorem exists_failsShowing (h : ((compile ctx path).run w s).answer = .ok (.failed f)) :
    (∃ texts, FailsShowing w s ctx path f texts) ∧
      ((compile ctx path).run w s).writes.filter (·.channel = .error) = [⟨.error, f.report⟩] := by
  have hp := prepared_preparation w s ctx path
  rcases ha : attempt w s (preparation ctx path) with ⟨stop | ⟨target, p⟩, s', es⟩
  · rw [run_compile_stopped ha, verdictOf_error_eq_iff] at h
    obtain ⟨_, rfl, ⟨⟩⟩ := h
    refine ⟨?_, (reportsOnce_of_stopped ha).filter_error⟩
    rw [ha] at hp
    cases hp with
    | unresolved ht =>
      obtain ⟨e, hr, he, rfl⟩ := resolve_of_targetOn_failure ht
      exact ⟨_, .unresolved hr he⟩
    | notFound ht hf => exact ⟨_, .notFound ht hf⟩
    | unprobed ht hf hj => exact exists_failsShowing_of_judged ht hf hj
  · cases hd : ctx.console.dryRun with
    | true =>
      rw [run_compile_dry ha hd] at h
      cases h
    | false =>
      have hanswer : ((compile ctx path).run w s).answer =
          verdictOf ((w.launch (spawnOf ctx p) s').1.answer p) := by
        rw [run_compile_real ha hd]
      rw [hanswer] at h
      cases hl : (w.launch (spawnOf ctx p) s').1 with
      | refused e =>
        rw [hl] at h
        cases h
        rw [ha] at hp
        cases hp with
        | planned ht hf hj _ =>
          exact ⟨⟨_, .unlaunched ht hf hj rfl hl⟩, (reportsOnce_of_refused ha hf hd hl).filter_error⟩
      | broken e => rw [hl] at h; cases h
      | started c => rw [hl] at h; cases h

end Lines

/-- A compile that fails writes one report to the error channel. It is not blank and ends in a line end,
and that is the only one exactly if none of the texts of others that it shows has one. -/
theorem report_is_line_iff {σ : Type} {w : World σ} {s : σ} {ctx : Context} {path : String}
    {f : Failure} (h : ((compile ctx path).run w s).answer = .ok (.failed f)) :
    ∃ texts, FailsShowing w s ctx path f texts ∧
      ((compile ctx path).run w s).writes.filter (·.channel = .error) = [⟨.error, f.report⟩] ∧
      isBlankText f.report = false ∧ f.report.toList.getLast? = some '\n' ∧
      (f.report.toList.count '\n' = 1 ↔ ∀ x ∈ texts, Unbroken x) := by
  obtain ⟨⟨texts, hf⟩, hwrites⟩ := exists_failsShowing h
  refine ⟨texts, hf, hwrites, ?_, ?_, ?_⟩
  · rw [Failure.report, isBlankText_append, hf.not_blank, Bool.false_and]
  · have hend : "\n".toList = ['\n'] := by decide
    rw [Failure.report, String.toList_append, hend, List.getLast?_concat]
  · rw [Failure.report, count_newline_eq_one_iff, hf.unbroken_iff]

section Circled
open FileSystem

def circled : Host := .atRoot ⟨[(["a.tex"], .link "a.tex"), (["a\nb.tex"], .link "a\nb.tex")]⟩

section Names
variable {name : String} (hm : name ∈ ["a.tex", "a\nb.tex"])
include hm

theorem facts_circled : (isHere name = false ∧ name ≠ ".." ∧ name ≠ "" ∧ name.front ≠ '/' ∧
      split '/' name = [name]) ∧ name.utf8ByteSize ≤ nameLimit ∧
    circled.files.entry? [name] = some (.link name) := by
  have hall : ∀ name ∈ ["a.tex", "a\nb.tex"], (isHere name = false ∧ name ≠ ".." ∧ name ≠ "" ∧
      name.front ≠ '/' ∧ split '/' name = [name]) ∧ name.utf8ByteSize ≤ nameLimit ∧
      circled.files.entry? [name] = some (.link name) := by decide
  exact hall name hm

theorem walk_circled (links : Nat) :
    circled.files.walk links [] [name] = .error .tooManyLinks := by
  obtain ⟨⟨hhere, habove, hne, hfront, hsplit⟩, hlimit, he⟩ := facts_circled hm
  have hroot : circled.files.hasDirectory [] = true := rfl
  induction links with
  | zero => simp [FileSystem.walk, hroot, hhere, habove, Nat.not_lt.2 hlimit, he]
  | succ links ih =>
    rw [FileSystem.walk]
    simp [hroot, hhere, habove, Nat.not_lt.2 hlimit, he, hne, hsplit, ih]

theorem stat_circled :
    circled.files.stat [] ("/" ++ name) = .error (.system .tooManyLinks) := by
  have hall : ∀ name ∈ ["a.tex", "a\nb.tex"], '\x00' ∉ ("/" ++ name).toList ∧ "/" ++ name ≠ "" ∧
      ("/" ++ name).utf8ByteSize ≤ pathLimit ∧ split '/' ("/" ++ name) = ["", name] := by decide
  obtain ⟨hz, hne, hlimit, hsplit⟩ := hall name hm
  have hwalk : circled.files.walk linkLimit [] ["", name] = .error .tooManyLinks := by
    have hroot : circled.files.hasDirectory [] = true := rfl
    have hhere : isHere "" = true := rfl
    rw [FileSystem.walk]
    simp [hroot, hhere, walk_circled hm]
  rw [stat, locate, if_neg hz, if_neg hne, if_neg (Nat.not_lt.2 hlimit), ite_self, hsplit, hwalk]
  rfl

theorem realPath_circled : circled.files.realPath [] name =
    .absolute ⟨.root, []⟩ (followedBy (followedBy ⟨.relative, [name]⟩ []) []) := by
  obtain ⟨⟨hhere, habove, hne, hfront, hsplit⟩, hlimit, he⟩ := facts_circled hm
  have hlinks : circled.files.linkCount = 2 := rfl
  have hrelative : ¬name.front?.getD 'A' = '/' := by simpa using hfront
  simp only [realPath, realNamesOf, if_neg hfront]
  simp [realNames, hlinks, hhere, habove, hrelative, hsplit, he, Waypoint.enter, Waypoint.here,
    Waypoint.location, Waypoint.path]

theorem resolve_circled : circled.resolve name = .error (.linkCircle ("/" ++ name)) := by
  have hall : ∀ name ∈ ["a.tex", "a\nb.tex"], name.toList.head? ≠ some '~' ∧ '\x00' ∉ name.toList ∧
      (PosixPath.ofText name).toText = name ∧ (PosixPath.absolute ⟨.root, []⟩
        (followedBy (followedBy ⟨.relative, [name]⟩ []) [])).toText = "/" ++ name := by decide
  obtain ⟨htilde, hz, htext, hfound⟩ := hall name hm
  have hreal : circled.files.realPath [] (PosixPath.ofText name).toText =
      .absolute ⟨.root, []⟩ (followedBy (followedBy ⟨.relative, [name]⟩ []) []) := by
    rw [htext, realPath_circled hm]
  have hstat := stat_circled hm
  rw [← hfound] at hstat ⊢
  exact Host.resolve_of_circle (Homes.expand_of_no_tilde _ htilde)
    (Encoding.pathFlaw?_utf8_eq_none_iff.2 hz) (fun _ => Host.hasWorkingDirectory_atRoot _) hreal hstat

theorem answer_circled (ctx : Context) :
    ((compile ctx name).run (still circled) ()).answer = .ok (.failed
      (.targetPath name (PathError.linkCircle ("/" ++ name)).message)) := by
  have htarget : targetOn ((still circled).host ()) name =
      .error (.failure (.targetPath name (PathError.linkCircle ("/" ++ name)).message)) := by
    show targetOn circled name = _
    rw [targetOn, resolve_circled hm]
  rw [run_compile_stopped (attempt_preparation_of_unresolved htarget)]
  rfl

end Names

def unconfigured : Context := ⟨.default, .ofLevel "none" false, .empty, .posix⟩

/-- A path without a line end is reported on one line. -/
theorem report_is_line_iff_circled :
    let t := (compile unconfigured "a.tex").run (still circled) ()
    ∃ text, t.writes.filter (·.channel = .error) = [⟨.error, text⟩] ∧
      text.toList.count '\n' = 1 ∧ text = "Unable to resolve a.tex: Symlink loop from '/a.tex'\n" := by
  have hm : "a.tex" ∈ ["a.tex", "a\nb.tex"] := by decide
  have hanswer := answer_circled hm unconfigured
  obtain ⟨texts, hfails, hwrites, -, -, hone⟩ := report_is_line_iff hanswer
  rw [hfails.texts_eq_of_targetPath] at hone
  exact ⟨_, hwrites, hone.2 (by decide), by decide⟩

/-- A path with a line end goes into the report as it is, and only its literal is escaped. -/
theorem two_lines_circled :
    let t := (compile unconfigured "a\nb.tex").run (still circled) ()
    ∃ f text, t.answer = .ok (.failed f) ∧
      t.writes.filter (·.channel = .error) = [⟨.error, text⟩] ∧ text.toList.count '\n' = 2 ∧
      text = "Unable to resolve a\nb.tex: Symlink loop from '/a\\nb.tex'\n" := by
  have hm : "a\nb.tex" ∈ ["a.tex", "a\nb.tex"] := by decide
  have hanswer := answer_circled hm unconfigured
  obtain ⟨-, hwrites⟩ := exists_failsShowing hanswer
  exact ⟨_, _, hanswer, hwrites, by decide, by decide⟩

end Circled

end Compile
end Typeset
