import Typeset.Config.Source
import Typeset.Proofs.Host.AtRoot

/-!
# The highest source of a configuration

A configuration has one source, the highest one that is present, and what it comes to depends on that
source and its file alone. The two sources that somebody asks for fail if they name no regular file; the
usual place is passed over, and then the settings are those of a file that says nothing.
-/

namespace Typeset.Config

/-- The sources of a configuration, from the highest to the lowest: a path that is given, a text that the
environment holds, the usual place, and nothing at all. -/
inductive Source
  | given (p : PosixPath)
  | named (text : String)
  | usual
  | nowhere
  deriving DecidableEq

namespace Source

def path? (homes : Homes) : Source → Option PosixPath
  | given p => some p
  | named text => (homes.expand text).toOption.map .ofText
  | usual => (homes.expand usualPath).toOption.map .ofText
  | nowhere => none

/-- Somebody asked for the file of a source. -/
def IsAsked : Source → Prop
  | given _ | named _ => True
  | usual | nowhere => False

end Source

def Unnamed (env : Variables) : Prop :=
  env.get? pathVariable = none ∨ env.get? pathVariable = some ""

/-- The first source that is present. -/
inductive First (h : Host) : Option PosixPath → Variables → Source → Prop
  | given (p : PosixPath) (env : Variables) : First h (some p) env (.given p)
  | named {env : Variables} {text : String} (hv : env.get? pathVariable = some text)
      (hne : text ≠ "") : First h none env (.named text)
  | usual {env : Variables} {p : PosixPath} (hv : Unnamed env)
      (hp : Source.usual.path? h.homes = some p) (hf : h.isFile p.toText = .ok true) :
      First h none env .usual
  | nowhere {env : Variables} {p : PosixPath} (hv : Unnamed env)
      (hp : Source.usual.path? h.homes = some p) (hf : h.isFile p.toText = .ok false) :
      First h none env .nowhere

def configured (h : Host) (given : Option PosixPath) (env : Variables) :
    Except LoadError Settings := do
  loadSettings h (← configPath h given env)

/-- Two hosts agree on the homes, on the working directory, and on the file of a source. -/
structure AgreeOn (src : Source) (h h' : Host) : Prop where
  homes_eq : h'.homes = h.homes
  workingDirectory : h'.workingDirectory = h.workingDirectory
  file : ∀ p, src.path? h.homes = some p →
    h'.files.stat h.workingDirectory p.toText = h.files.stat h.workingDirectory p.toText

namespace AgreeOn
variable {src : Source} {h h' : Host} {p : PosixPath} (ha : AgreeOn src h h')
include ha

theorem isFile_eq (hp : src.path? h.homes = some p) : h'.isFile p.toText = h.isFile p.toText := by
  rw [Host.isFile, Host.isFile, FileSystem.isFile, FileSystem.isFile, ha.workingDirectory,
    ha.file p hp]

theorem loadSettings_eq (hp : src.path? h.homes = some p) :
    loadSettings h' (some p) = loadSettings h (some p) := by
  have hread : h'.files.read h'.workingDirectory p.toText =
      h.files.read h.workingDirectory p.toText := by
    rw [FileSystem.read, FileSystem.read, ha.workingDirectory, ha.file p hp]
  have hload : loadFile h' p = loadFile h p := by
    rw [loadFile, loadFile, hread]
  rw [loadSettings, loadSettings, isRegular, isRegular, ha.isFile_eq hp, hload, ha.homes_eq]

end AgreeOn

section Outcome
variable {h : Host} {given : Option PosixPath} {env : Variables} {src : Source} {p : PosixPath}

theorem nonEmpty?_eq_some {text : String} (hv : env.get? pathVariable = some text) (hne : text ≠ "") :
    env.nonEmpty? pathVariable = some text := by
  simp [Variables.nonEmpty?, hv, hne, Option.filter]

theorem Unnamed.nonEmpty?_eq_none (hv : Unnamed env) : env.nonEmpty? pathVariable = none := by
  rcases hv with hv | hv <;> simp [Variables.nonEmpty?, hv, Option.filter]

theorem configured_named {text : String} (hv : env.get? pathVariable = some text) (hne : text ≠ "") :
    configured h none env = ((h.homes.expand text).mapError .flawedHome).bind
      fun expanded => loadSettings h (some (.ofText expanded)) := by
  rw [configured]
  simp only [configPath, nonEmpty?_eq_some hv hne, expandedPath]
  cases h.homes.expand text with
  | error f => rfl
  | ok expanded => rfl

theorem configured_unnamed (hv : Unnamed env) (hp : Source.usual.path? h.homes = some p)
    {regular : Bool} (hf : h.isFile p.toText = .ok regular) :
    configured h none env = loadSettings h (if regular then some p else none) := by
  have hexpanded : expandedPath h usualPath = .ok p := by
    rw [Source.path?] at hp
    rw [expandedPath]
    cases hx : h.homes.expand usualPath with
    | error f =>
      rw [hx] at hp
      cases hp
    | ok text =>
      rw [hx] at hp
      cases hp
      rfl
  have hregular : isRegular h p = .ok regular := by
    rw [isRegular, hf]
    rfl
  rw [configured]
  simp only [configPath, hv.nonEmpty?_eq_none, hexpanded, bind, Except.bind, hregular]
  cases regular <;> rfl

theorem loadSettings_of_notFile (hf : h.isFile p.toText = .ok false) :
    loadSettings h (some p) = .error (.notFound p.toText) := by
  rw [loadSettings, isRegular, hf]
  rfl

/-- The settings of a file whose bytes have been read. -/
def settingsOfBytes (homes : Homes) (format : Format) (path : String) (bytes : Text.Utf8.Bytes) :
    Except LoadError Settings := do
  let value ← (format.read (← decoded bytes)).mapError (.unreadable format)
  (Settings.ofMapping homes (← rootOf path value)).mapError .settings

theorem loadSettings_of_read {format : Format} {bytes : Text.Utf8.Bytes}
    (hf : h.isFile p.toText = .ok true)
    (hending : Format.ofEnding? (Text.lower p.suffix) = some format)
    (hread : h.files.read h.workingDirectory p.toText = .ok bytes) :
    loadSettings h (some p) = settingsOfBytes h.homes format p.toText bytes := by
  rw [loadSettings, isRegular, hf, settingsOfBytes]
  simp only [loadFile, hending, hread, Except.mapError, bind, Except.bind, Bool.not_true,
    Bool.false_eq_true, if_false]
  cases decoded bytes with
  | error e => rfl
  | ok text =>
    dsimp only
    cases format.read text <;> rfl

/-- A file whose section is absent or empty says nothing. -/
theorem loadSettings_of_silent {data : Mapping} (hf : h.isFile p.toText = .ok true)
    (hd : loadFile h p = .ok data)
    (hs : data.lookup sectionName ∈ [none, some .null, some (.map [])]) :
    loadSettings h (some p) = .ok .default := by
  have hsection : sectionOf data sectionName = .ok [] := by
    rw [sectionOf]
    simp only [List.mem_cons, List.not_mem_nil, or_false] at hs
    rcases hs with hs | hs | hs
    · rw [hs]
    · rw [hs]
    · rw [hs]
  have hsettings : Settings.ofMapping h.homes data = .ok .default := by
    rw [Settings.ofMapping, hsection]
    exact Settings.ofSection_nil h.homes nestingRoom
  rw [loadSettings, isRegular, hf]
  simp only [Except.mapError, bind, Except.bind, Bool.not_true, Bool.false_eq_true, if_false, hd,
    hsettings]

end Outcome

theorem Source.exists_path?_named {homes : Homes} {text : String} (hx : homes.Expands text) :
    ∃ p, (Source.named text).path? homes = some p := by
  obtain ⟨expanded, he⟩ := hx
  exact ⟨.ofText expanded, by rw [path?, he]; rfl⟩

/-- The tilde of the usual place stands for the current user, about whom nothing has to be asked. -/
theorem Source.exists_path?_usual (homes : Homes) : ∃ p, Source.usual.path? homes = some p := by
  have hx : homes.Expands usualPath := by
    have hlist : usualPath.toList = '~' :: "/.config/texpdf/config.toml".toList := by decide
    have huser : String.ofList ("/.config/texpdf/config.toml".toList.takeWhile (· ≠ '/')) = "" := by
      decide
    simp only [Homes.Expands, Homes.expand, hlist, huser, Encoding.flaw?_empty]
    cases homes.directory? "" with
    | none => exact ⟨_, rfl⟩
    | some d => exact ⟨_, rfl⟩
  exact exists_path?_named hx

section Sources
variable {h : Host} {given : Option PosixPath} {env : Variables} {src : Source}

theorem not_unnamed {text : String} (hv : env.get? pathVariable = some text) (hne : text ≠ "") :
    ¬Unnamed env := by
  rintro (hn | hn)
  · rw [hv] at hn
    cases hn
  · rw [hv, Option.some.injEq] at hn
    exact hne hn

theorem First.unique {other : Source} (hs : First h given env src) (ho : First h given env other) :
    other = src := by
  cases hs with
  | given p env =>
    cases ho with
    | given p env => rfl
  | named hv hne =>
    cases ho with
    | named hv' hne' => rw [Option.some.inj (hv.symm.trans hv')]
    | usual hn _ _ => exact absurd hn (not_unnamed hv hne)
    | nowhere hn _ _ => exact absurd hn (not_unnamed hv hne)
  | usual hn hp hf =>
    cases ho with
    | named hv hne => exact absurd hn (not_unnamed hv hne)
    | usual _ _ _ => rfl
    | nowhere _ hp' hf' =>
      obtain rfl := Option.some.inj (hp.symm.trans hp')
      rw [hf] at hf'
      cases hf'
  | nowhere hn hp hf =>
    cases ho with
    | named hv hne => exact absurd hn (not_unnamed hv hne)
    | usual _ hp' hf' =>
      obtain rfl := Option.some.inj (hp.symm.trans hp')
      rw [hf] at hf'
      cases hf'
    | nowhere _ _ _ => rfl

theorem exists_first (hlookup : given = none → Unnamed env → ∀ p,
      Source.usual.path? h.homes = some p → ∃ regular, h.isFile p.toText = .ok regular) :
    ∃ src, First h given env src := by
  cases given with
  | some p => exact ⟨_, .given p env⟩
  | none =>
    by_cases hv : Unnamed env
    · obtain ⟨p, hp⟩ := Source.exists_path?_usual h.homes
      obtain ⟨regular, hf⟩ := hlookup rfl hv p hp
      cases regular with
      | true => exact ⟨_, .usual hv hp hf⟩
      | false => exact ⟨_, .nowhere hv hp hf⟩
    · cases hg : env.get? pathVariable with
      | none => exact absurd (.inl hg) hv
      | some text => exact ⟨_, .named hg fun he => hv (.inr (he ▸ hg))⟩

/-- The outcome follows the first source, in every environment and on every host that agrees on it. -/
theorem First.configured_eq {h' : Host} {env' : Variables} (hs : First h given env src)
    (hs' : First h' given env' src) (ha : AgreeOn src h h') :
    configured h' given env' = configured h given env := by
  cases hs with
  | given p env => exact ha.loadSettings_eq rfl
  | @named _ text hv hne =>
    cases hs' with
    | named hv' _ =>
      rw [configured_named hv hne, configured_named hv' hne, ha.homes_eq]
      cases hx : h.homes.expand text with
      | error f => simp only [Except.mapError, Except.bind]
      | ok expanded =>
        have hp : (Source.named text).path? h.homes = some (.ofText expanded) := by
          rw [Source.path?, hx]
          rfl
        simp only [Except.mapError, Except.bind, ha.loadSettings_eq hp]
  | usual hv hp hf =>
    cases hs' with
    | usual hv' hp' hf' =>
      obtain rfl := Option.some.inj (hp.symm.trans (ha.homes_eq ▸ hp'))
      rw [configured_unnamed hv hp hf, configured_unnamed hv' hp' hf']
      exact ha.loadSettings_eq hp
  | nowhere hv hp hf =>
    cases hs' with
    | nowhere hv' hp' hf' =>
      rw [configured_unnamed hv hp hf, configured_unnamed hv' hp' hf', if_neg Bool.false_ne_true,
        if_neg Bool.false_ne_true, loadSettings_none, loadSettings_none]

/-- A source that somebody asked for has a path, and fails if that names no regular file. -/
theorem First.not_found (hs : First h given env src)
    (hx : ∀ text, env.get? pathVariable = some text → h.homes.Expands text) (hasked : src.IsAsked) :
    ∃ p, src.path? h.homes = some p ∧
      (h.isFile p.toText = .ok false → configured h given env = .error (.notFound p.toText)) := by
  cases hs with
  | given p env => exact ⟨p, rfl, loadSettings_of_notFile⟩
  | named hv hne =>
    obtain ⟨expanded, hx⟩ := hx _ hv
    refine ⟨.ofText expanded, by rw [Source.path?, hx]; rfl, ?_⟩
    intro hf
    rw [configured_named hv hne, hx]
    exact loadSettings_of_notFile hf
  | usual hv hp hf => cases hasked
  | nowhere hv hp hf => cases hasked

theorem First.configured_nowhere (hs : First h given env .nowhere) :
    configured h given env = .ok .default := by
  cases hs with
  | nowhere hv hp hf =>
    rw [configured_unnamed hv hp hf, if_neg Bool.false_ne_true, loadSettings_none]

end Sources

/-- A source is the only one that counts. -/
structure Governs (src : Source) (h : Host) (given : Option PosixPath) (env : Variables) : Prop where
  first : First h given env src
  unique : ∀ other, First h given env other → other = src
  /-- Whatever the lower sources hold, the outcome is the same. -/
  outcome_eq : ∀ h' env', First h' given env' src → AgreeOn src h h' →
    configured h' given env' = configured h given env
  not_found : src.IsAsked → ∃ p, src.path? h.homes = some p ∧
    (h.isFile p.toText = .ok false → configured h given env = .error (.notFound p.toText))
  /-- Where there is no source, the settings are those of any file that says nothing. -/
  defaults : src = .nowhere → configured h given env = .ok .default ∧
    ∀ h' p data, h'.isFile p.toText = .ok true → loadFile h' p = .ok data →
      data.lookup sectionName ∈ [none, some .null, some (.map [])] →
      loadSettings h' (some p) = configured h given env

/-- One source of a configuration counts, the first that is present. -/
theorem highest_source_counts {h : Host} {given : Option PosixPath} {env : Variables}
    (hx : ∀ text, env.get? pathVariable = some text → h.homes.Expands text)
    (hlookup : given = none → Unnamed env → ∀ p, Source.usual.path? h.homes = some p →
      ∃ regular, h.isFile p.toText = .ok regular) :
    ∃ src, Governs src h given env := by
  obtain ⟨src, hs⟩ := exists_first hlookup
  refine ⟨src, hs, fun _ => hs.unique, fun _ _ => hs.configured_eq, hs.not_found hx, ?_⟩
  rintro rfl
  rw [hs.configured_nowhere]
  exact ⟨rfl, fun _ _ _ => loadSettings_of_silent⟩

section Settled
open Text FileSystem

def said : String := "\x7b\"texpdf\": \x7b\"program\": \"pdftex\"\x7d\x7d"

/-- A host with a configuration file at the usual place, which may be unreadable, and with another one. -/
def settled (readable : Bool) : Host where
  files :=
    ⟨[(["home"], .directory), (["home", ".config"], .directory),
      (["home", ".config", "texpdf"], .directory),
      (["home", ".config", "texpdf", "config.toml"], .file [] (if readable then 0o644 else 0)),
      (["a.json"], .file (Utf8.encode said.toList) 0o644)]⟩
  workingDirectory := []
  environment := ⟨[("HOME", "/home")]⟩
  accounts := []
  scripts := ⟨.root, ["scripts"]⟩

def naming (text : String) : Variables := ⟨[("TEXPDF_CONFIG", text)]⟩

def usualFile : PosixPath := .ofText "/home/.config/texpdf/config.toml"

variable (readable : Bool)

theorem path?_usual_settled : Source.usual.path? (settled readable).homes = some usualFile := by
  cases readable <;> decide

theorem stat_usual_settled : (settled readable).files.stat [] usualFile.toText =
    .ok (.file [] (if readable then 0o644 else 0)) := by
  have hplain : (settled readable).files.HasPlain [] ["home", ".config", "texpdf", "config.toml"]
      (.file [] (if readable then 0o644 else 0)) := by cases readable <;> decide
  exact Host.stat_of_absolute hplain (by decide) (by decide) []

theorem isFile_usual_settled : (settled readable).isFile usualFile.toText = .ok true := by
  have hstat : (settled readable).files.stat (settled readable).workingDirectory usualFile.toText =
      .ok (.file [] (if readable then 0o644 else 0)) := stat_usual_settled readable
  rw [Host.isFile, FileSystem.isFile, hstat]

theorem read_usual_settled : (settled readable).files.read (settled readable).workingDirectory
    usualFile.toText = if readable then .ok [] else .error (.system .accessDenied) := by
  have hstat : (settled readable).files.stat (settled readable).workingDirectory usualFile.toText =
      .ok (.file [] (if readable then 0o644 else 0)) := stat_usual_settled readable
  rw [FileSystem.read, hstat]
  cases readable <;> rfl

theorem stat_named_settled : (settled readable).files.stat [] (PosixPath.ofText "a.json").toText =
    .ok (.file (Utf8.encode said.toList) 0o644) := by
  have hplain : (settled readable).files.HasPlain [] ["a.json"]
      (.file (Utf8.encode said.toList) 0o644) := by cases readable <;> decide
  have hlocate : (settled readable).files.locate [] (PosixPath.ofText "a.json").toText =
      .ok ["a.json"] := hplain.locate_of_relative (by decide) (by decide)
  exact stat_eq_ok_iff.2 ⟨_, hlocate, rfl⟩

theorem loadSettings_named_settled :
    loadSettings (settled readable) (some (.ofText "a.json")) =
      .ok { Settings.default with program := "pdftex" } := by
  have hstat : (settled readable).files.stat (settled readable).workingDirectory
      (PosixPath.ofText "a.json").toText = .ok (.file (Utf8.encode said.toList) 0o644) :=
    stat_named_settled readable
  have hfile : (settled readable).isFile (PosixPath.ofText "a.json").toText = .ok true := by
    rw [Host.isFile, FileSystem.isFile, hstat]
  have hread : (settled readable).files.read (settled readable).workingDirectory
      (PosixPath.ofText "a.json").toText = .ok (Utf8.encode said.toList) := by
    rw [FileSystem.read, hstat]
    rfl
  have hending : Format.ofEnding? (lower (PosixPath.ofText "a.json").suffix) = some .json := by
    decide
  rw [loadSettings_of_read hfile hending hread]
  cases readable <;> decide +kernel

/-- At the usual place the two hosts differ: on one the file says nothing, on the other it cannot be
read. -/
theorem loadSettings_usual_settled :
    loadSettings (settled true) (some usualFile) = .ok .default ∧
      loadSettings (settled false) (some usualFile) =
        .error (.system .accessDenied usualFile.toText) := by
  have hending : Format.ofEnding? (lower usualFile.suffix) = some .toml := by decide
  constructor
  · rw [loadSettings_of_read (isFile_usual_settled true) hending (read_usual_settled true)]
    decide +kernel
  · have hload : loadFile (settled false) usualFile =
        .error (.system .accessDenied usualFile.toText) := by
      rw [loadFile]
      simp only [read_usual_settled, hending, Bool.false_eq_true, if_false, Except.mapError, bind,
        Except.bind]
    rw [loadSettings, isRegular, isFile_usual_settled]
    simp only [Except.mapError, bind, Except.bind, Bool.not_true, Bool.false_eq_true, if_false, hload]

/-- The named file counts whatever the usual place holds, also where it is missing; without one the usual
place counts, and on a host without files the default settings. -/
theorem highest_source_counts_settled :
    (configured (settled true) none .empty = .ok .default ∧
      configured (settled false) none .empty =
        .error (.system .accessDenied usualFile.toText)) ∧
    (configured (settled true) none (naming "a.json") =
        .ok { Settings.default with program := "pdftex" } ∧
      configured (settled false) none (naming "a.json") =
        configured (settled true) none (naming "a.json")) ∧
    configured (settled true) none (naming "b.json") = .error (.notFound "b.json") ∧
    configured (.atRoot .empty) none .empty = .ok .default := by
  have hunnamed : Unnamed .empty := .inl rfl
  have hnamed : ∀ text, (naming text).get? pathVariable = some text := fun _ => rfl
  have hgoverns : ∀ text, text ∈ ["a.json", "b.json"] →
      Governs (.named text) (settled true) none (naming text) := by
    intro text hm
    have hall : ∀ text ∈ ["a.json", "b.json"], text ≠ "" ∧ text.toList.head? ≠ some '~' := by decide
    obtain ⟨hne, htilde⟩ := hall text hm
    have hexpands : ∀ t, (naming text).get? pathVariable = some t →
        (settled true).homes.Expands t := by
      intro t ht
      obtain rfl := Option.some.inj ((hnamed text).symm.trans ht)
      exact ⟨text, Homes.expand_of_no_tilde _ htilde⟩
    obtain ⟨src, hg⟩ : ∃ src, Governs src (settled true) none (naming text) :=
      highest_source_counts hexpands fun _ hv => absurd hv (not_unnamed (hnamed text) hne)
    rwa [hg.unique _ (.named (hnamed text) hne)]
  refine ⟨⟨?_, ?_⟩, ⟨?_, ?_⟩, ?_, ?_⟩
  · rw [configured_unnamed hunnamed (path?_usual_settled true) (isFile_usual_settled true)]
    exact loadSettings_usual_settled.1
  · rw [configured_unnamed hunnamed (path?_usual_settled false) (isFile_usual_settled false)]
    exact loadSettings_usual_settled.2
  · rw [configured_named (hnamed "a.json") (by decide)]
    exact loadSettings_named_settled true
  · have hagree : AgreeOn (.named "a.json") (settled true) (settled false) := by
      refine ⟨rfl, rfl, ?_⟩
      rintro p hp
      obtain rfl : PosixPath.ofText "a.json" = p := Option.some.inj hp
      exact (stat_named_settled false).trans (stat_named_settled true).symm
    exact (hgoverns "a.json" (by decide)).outcome_eq _ _ (.named (hnamed _) (by decide)) hagree
  · obtain ⟨p, hp, hmissing⟩ := (hgoverns "b.json" (by decide)).not_found trivial
    obtain rfl : PosixPath.ofText "b.json" = p := Option.some.inj hp
    have htext : (PosixPath.ofText "b.json").toText = "b.json" := by decide
    rw [htext] at hmissing
    have hroot : (settled true).files.hasDirectory [] = true := rfl
    exact hmissing (FileSystem.isFile_of_missing hroot (by decide) (split_of_notMem (by decide))
      (by decide) (by decide))
  · have hmissing : ∀ p, Source.usual.path? (Host.atRoot .empty).homes = some p →
        (Host.atRoot .empty).isFile p.toText = .ok false := by
      intro p hp
      have hpath : Source.usual.path? (Host.atRoot .empty).homes = some (.ofText usualPath) := rfl
      obtain rfl := Option.some.inj (hpath.symm.trans hp)
      have htext : (PosixPath.ofText usualPath).toText = usualPath := by decide
      have hsplit : split '/' usualPath = ["~", ".config", "texpdf", "config.toml"] := by decide
      have hroot : FileSystem.empty.hasDirectory [] = true := rfl
      rw [htext]
      exact FileSystem.isFile_of_missing hroot (by decide) hsplit (by decide) (by decide)
    obtain ⟨src, hg⟩ : ∃ src, Governs src (.atRoot .empty) none .empty :=
      highest_source_counts (by rintro text ⟨⟩) fun _ _ p hp => ⟨false, hmissing p hp⟩
    obtain ⟨p, hp⟩ := Source.exists_path?_usual (Host.atRoot .empty).homes
    exact (hg.defaults (hg.unique _ (.nowhere hunnamed hp (hmissing p hp))).symm).1

end Settled

end Typeset.Config
