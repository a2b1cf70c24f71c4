import Typeset.Config.Source
import Typeset.Proofs.Config.Acceptance
import Typeset.Proofs.Host.AtRoot
import Typeset.Proofs.Number.NotANumber

/-!
# The time limit of configured settings

Whatever configuration data gives settings at all gives them a floating point limit that is not zero
or below. That is a limit above zero, unless the configuration writes what is not a number.
-/

namespace Typeset

open Config

namespace Config

variable {m data : Mapping} {v : Value} {limit : Number}

/-- A value that is read as what is not a number. -/
inductive WritesNan : Value → Prop
  | real : WritesNan (.real .nan)
  | text {s : String} (h : Numeral.SaysNan s.toList) : WritesNan (.text s)
  | bytes {bs : List UInt8} {s : List Char} (hs : asciiText? bs = some s) (h : Numeral.SaysNan s) :
      WritesNan (.bytes bs)

theorem realOf_eq_nan_iff : realOf v = .ok .nan ↔ WritesNan v := by
  have helim : ∀ {o : Option Binary64} {e : SettingsError},
      o.elim (.error e) .ok = Except.ok .nan ↔ o = some .nan := by
    intro o e
    cases o <;> simp
  constructor
  · intro h
    cases v with
    | real x =>
      cases h
      exact .real
    | text s => exact .text (Numeral.read?_eq_nan_iff.1 (helim.1 h))
    | bytes bs =>
      obtain ⟨s, hs, hread⟩ := Option.bind_eq_some_iff.1 (helim.1 h)
      exact .bytes hs (Numeral.read?_eq_nan_iff.1 hread)
    | bool b => exact absurd (helim.1 h) (Binary64.ofInt?_ne_nan _)
    | int n => exact absurd (helim.1 h) (Binary64.ofInt?_ne_nan n)
    | _ => cases h
  · intro h
    cases h with
    | real => rfl
    | text h => exact helim.2 (Numeral.read?_eq_nan_iff.2 h)
    | bytes hs h => exact helim.2 (Option.bind_eq_some_iff.2 ⟨_, hs, Numeral.read?_eq_nan_iff.2 h⟩)

/-- Configuration data gives its section a limit that is not a number. -/
def GivesNan (data : Mapping) : Prop :=
  ∃ m v, IsSection data m ∧ m.lookup "probe_timeout" = some v ∧ WritesNan v

theorem GivesLimit.isNonPositive (h : GivesLimit m limit) :
    ∃ x, limit = .real x ∧ x.isNonPositive = false := by
  cases h with
  | usual h => exact ⟨_, rfl, by decide⟩
  | given hv hx hpos => exact ⟨_, rfl, hpos⟩

theorem GivesLimit.eq_nan_iff (hm : IsSection data m) (h : GivesLimit m limit) :
    limit = .real .nan ↔ GivesNan data := by
  constructor
  · intro hnan
    cases h with
    | usual h => exact absurd hnan (by decide)
    | given hv hx hpos =>
      cases hnan
      exact ⟨m, _, hm, hv, realOf_eq_nan_iff.1 hx⟩
  · rintro ⟨n, w, hn, hw, hnan⟩
    obtain rfl := hm.unique hn
    have hread := realOf_eq_nan_iff.2 hnan
    cases h with
    | usual h =>
      rw [h] at hw
      cases hw
    | given hv hx hpos =>
      obtain rfl := Option.some.inj (hv.symm.trans hw)
      rw [Except.ok.inj (hx.symm.trans hread)]

end Config

namespace Settings

variable {homes : Homes} {room : Nat} {m data : Mapping} {settings : Settings}

theorem promises_of_ofSection (h : ofSection homes room m = .ok settings) :
    Promises homes m (.ok settings) := by
  rw [← h, promises_ofSection_iff]
  refine readable_of_forall fun e _ he => ?_
  rw [h] at he
  cases he

theorem givesLimit_of_ofMapping (h : ofMapping homes data room = .ok settings) :
    ∃ m, IsSection data m ∧ GivesLimit m settings.probeTimeout := by
  by_cases hs : ∃ m, IsSection data m
  · obtain ⟨m, hm⟩ := hs
    rw [ofMapping_of_isSection hm] at h
    cases promises_of_ofSection h with
    | settings hk hp hl => exact ⟨m, hm, hl⟩
  · rw [ofMapping_of_forall fun m hm => hs ⟨m, hm⟩] at h
    cases h

theorem probeTimeout_of_ofMapping (h : ofMapping homes data room = .ok settings) :
    ∃ x, settings.probeTimeout = .real x ∧ x.isNonPositive = false := by
  obtain ⟨m, -, hl⟩ := givesLimit_of_ofMapping h
  exact hl.isNonPositive

/-- The limit of settings is above zero, unless `data` gives one that is not a number. No probe can
wait for that. -/
def LimitedBy (settings : Settings) (data : Mapping) : Prop :=
  ∃ x, settings.probeTimeout = .real x ∧ (x.isPositive = true ↔ ¬GivesNan data) ∧
    (x.milliseconds = .error .notANumber ↔ GivesNan data)

theorem limitedBy_of_ofMapping (h : ofMapping homes data room = .ok settings) :
    settings.LimitedBy data := by
  obtain ⟨m, hm, hl⟩ := givesLimit_of_ofMapping h
  obtain ⟨x, hx, hpos⟩ := hl.isNonPositive
  have hnan : x = .nan ↔ GivesNan data := by
    rw [← hl.eq_nan_iff hm, hx, Number.real.injEq]
  refine ⟨x, hx, ?_, Binary64.milliseconds_eq_notANumber_iff.trans hnan⟩
  rw [← hnan]
  constructor
  · rintro hx rfl
    cases hx
  · intro hne
    rcases x.isPositive_or_isNonPositive with h | h | h
    · exact h
    · rw [hpos] at h
      cases h
    · exact absurd h hne

end Settings

namespace Config

theorem bind_eq_ok_iff {ε α β : Type} {x : Except ε α} {f : α → Except ε β} {b : β} :
    (x >>= f) = .ok b ↔ ∃ a, x = .ok a ∧ f a = .ok b := by
  cases x <;> simp [bind, Except.bind]

theorem ofMapping_of_loadSettings {h : Host} {p : PosixPath} {settings : Settings}
    (hl : loadSettings h (some p) = .ok settings) :
    ∃ data, loadFile h p = .ok data ∧ Settings.ofMapping h.homes data = .ok settings := by
  obtain ⟨regular, -, hl⟩ := bind_eq_ok_iff.1 hl
  split at hl
  · cases hl
  · obtain ⟨data, hdata, hl⟩ := bind_eq_ok_iff.1 hl
    refine ⟨data, hdata, ?_⟩
    cases ho : Settings.ofMapping h.homes data with
    | ok s =>
      rw [ho] at hl
      cases hl
      rfl
    | error e =>
      rw [ho] at hl
      cases hl

/-- Settings have a time limit above zero, whether they come from a mapping, from a file or from
nowhere, unless the limit is given as what is not a number. That is not refused. -/
theorem limit_positive_unless_nan (homes : Homes) (data : Mapping) (room : Nat) (h : Host)
    (p : PosixPath) (settings : Settings) :
    (Settings.ofMapping homes data room = .ok settings → settings.LimitedBy data) ∧
    (loadSettings h none = .ok settings →
      ∃ x, settings.probeTimeout = .real x ∧ x.isPositive = true) ∧
    (loadSettings h (some p) = .ok settings →
      ∃ data, loadFile h p = .ok data ∧ settings.LimitedBy data) := by
  refine ⟨Settings.limitedBy_of_ofMapping, ?_, ?_⟩
  · intro hl
    cases hl
    exact ⟨_, rfl, by decide⟩
  · intro hl
    obtain ⟨data, hdata, hsettings⟩ := ofMapping_of_loadSettings hl
    exact ⟨data, hdata, Settings.limitedBy_of_ofMapping hsettings⟩

/-- A limit of five seconds, as a text. -/
theorem limit_positive_unless_nan_five :
    let five : Mapping := [(.text "texpdf", .map [(.text "probe_timeout", .text " 5 ")])]
    ∃ settings, Settings.ofMapping .empty five = .ok settings ∧
      ∃ x, settings.probeTimeout = .real x ∧ x.isPositive = true := by
  intro five
  refine ⟨_, rfl, ?_⟩
  let bare : Host := .atRoot .empty
  obtain ⟨hlimit, -⟩ :=
    limit_positive_unless_nan .empty five nestingRoom bare (.ofText "a.toml") _
  obtain ⟨x, hx, hpos, -⟩ := hlimit rfl
  refine ⟨x, hx, hpos.2 ?_⟩
  rintro ⟨m, v, hm, hv, hnan⟩
  obtain rfl := hm.unique (.given rfl)
  cases hv
  cases hnan with
  | text h => exact absurd h (by decide)

/-- A limit that is not a number is accepted, and it is not above zero. -/
theorem nan_limit_accepted :
    let nan : Mapping := [(.text "texpdf", .map [(.text "probe_timeout", .real .nan)])]
    ¬∀ settings, Settings.ofMapping .empty nan = .ok settings →
      ∃ x, settings.probeTimeout = .real x ∧ x.isPositive = true := by
  intro nan h
  obtain ⟨x, hx, hpos⟩ := h _ rfl
  cases hx
  cases hpos

end Config
end Typeset
