import Typeset.Proofs.Config.Mappings
import Mathlib.Logic.ExistsUnique

/-!
# What is documented of a configuration

The documentation says of every section what is to come of it: the first check that fails decides the
error, and a section that passes them all gives its trimmed texts. This decides the outcome of every
configuration. Which sections can be read at all is told here too.
-/

namespace Typeset

open Text Config

namespace Config

/-! ## What is documented -/

/-- The mapping that configuration data gives for its section; absent and null give none of the keys. -/
inductive IsSection (data : Mapping) : Mapping → Prop
  | absent (h : data.lookup sectionName = none) : IsSection data []
  | null (h : data.lookup sectionName = some .null) : IsSection data []
  | given {m : Mapping} (h : data.lookup sectionName = some (.map m)) : IsSection data m

def trimmedText? (v : Value) : Option String :=
  match v with
  | .null => none
  | v => if trim v.toText = "" then none else some (trim v.toText)

def program? (m : Mapping) : Option String :=
  match m.lookup "program" with
  | none => some Settings.default.program
  | some v => trimmedText? v

def KnowsKeys (m : Mapping) : Prop := ∀ p ∈ m, p.1.toText ∈ knownKeys

/-- The time limit that a section gives: the usual one, or a number that is not zero or below. -/
inductive GivesLimit (m : Mapping) : Number → Prop
  | usual (h : m.lookup "probe_timeout" = none) : GivesLimit m Settings.default.probeTimeout
  | given {v : Value} {x : Binary64} (hv : m.lookup "probe_timeout" = some v)
      (hx : realOf v = .ok x) (hpos : x.isNonPositive = false) : GivesLimit m (.real x)

/-- A directory with its tilde expanded; where that cannot be done it stays as it is. -/
def expanded (homes : Homes) (s : String) : String := (homes.expand s).toOption.getD s

def settingsOf (homes : Homes) (m : Mapping) (program : String) (limit : Number) : Settings where
  program := program
  probeFlag := ((m.lookup "probe_flag").bind trimmedText?).getD Settings.default.probeFlag
  probeTimeout := limit
  shareDirectory := ((m.lookup "share_dir").bind trimmedText?).map (expanded homes)
  scriptsDirectory :=
    (((m.lookup "scripts_dir").bind trimmedText?).map (expanded homes)).map PosixPath.ofText
  log := (m.lookup "log").bind trimmedText?

/-- What is to come of a section. -/
inductive Promises (homes : Homes) (m : Mapping) : Except SettingsError Settings → Prop
  | unknownKeys {names : List String} (hne : names ≠ []) (hsorted : names.Pairwise (· < ·))
      (hnames : ∀ s, s ∈ names ↔ (∃ p ∈ m, p.1.toText = s) ∧ s ∉ knownKeys) :
      Promises homes m (.error (.unknownKeys names))
  | emptyProgram (hk : KnowsKeys m) (hp : program? m = none) :
      Promises homes m (.error .emptyProgram)
  | notANumber {program : String} {v : Value} (hk : KnowsKeys m) (hp : program? m = some program)
      (hv : m.lookup "probe_timeout" = some v) (hx : ∀ x, realOf v ≠ .ok x) :
      Promises homes m (.error .timeoutNotANumber)
  | notPositive {program : String} {v : Value} {x : Binary64} (hk : KnowsKeys m)
      (hp : program? m = some program) (hv : m.lookup "probe_timeout" = some v)
      (hx : realOf v = .ok x) (hpos : x.isNonPositive = true) :
      Promises homes m (.error .timeoutNotPositive)
  | settings {program : String} {limit : Number} (hk : KnowsKeys m)
      (hp : program? m = some program) (hl : GivesLimit m limit) :
      Promises homes m (.ok (settingsOf homes m program limit))

/-- What is to come of configuration data. -/
inductive Documented (homes : Homes) (data : Mapping) : Except SettingsError Settings → Prop
  | notMapping (h : ∀ m, ¬IsSection data m) :
      Documented homes data (.error (.sectionNotMapping sectionName))
  | mapping {m : Mapping} {o : Except SettingsError Settings} (h : IsSection data m)
      (ho : Promises homes m o) : Documented homes data o

def WritableTexts (room : Nat) (m : Mapping) : Prop :=
  ∀ key ∈ ["scripts_dir", "share_dir", "probe_flag", "log"],
    (m.lookup key).all (Value.isWritable room) = true

def ExpandableHomes (homes : Homes) (m : Mapping) : Prop :=
  ∀ key ∈ ["scripts_dir", "share_dir"],
    ∀ s, (m.lookup key).bind trimmedText? = some s → homes.Expands s

/-- Nothing of a section that is looked at is beyond reading. What comes after a check that fails is
not looked at. -/
structure Readable (homes : Homes) (room : Nat) (m : Mapping) : Prop where
  keys : ∀ p ∈ m, p.1.isWritable room = true
  program : KnowsKeys m → (m.lookup "program").all (Value.isWritable room) = true
  limit : KnowsKeys m → ∀ s, program? m = some s → ∀ n,
    m.lookup "probe_timeout" = some (.int n) → (Binary64.ofInt? n).isSome = true
  texts : KnowsKeys m → ∀ s, program? m = some s → ∀ x, GivesLimit m x → WritableTexts room m
  homes : KnowsKeys m → ∀ s, program? m = some s → ∀ x, GivesLimit m x → ExpandableHomes homes m

/-- The errors that no documentation speaks of. -/
def unforeseen : List SettingsError :=
  [.unwritable .integerTooLong, .unwritable .tooDeep, .timeoutTooLarge, .flawedHome .nul,
    .flawedHome .unencodable]

/-! ## The one outcome that is documented -/

theorem isSection_iff {data m : Mapping} : IsSection data m ↔ sectionOf data sectionName = .ok m := by
  constructor
  · rintro (h | h | h) <;> simp [sectionOf, h]
  · intro h
    rw [sectionOf] at h
    split at h
    · cases h
      exact .absent ‹_›
    · cases h
      exact .null ‹_›
    · cases h
      exact .given ‹_›
    · cases h

theorem sectionOf_of_forall {data : Mapping} (h : ∀ m, ¬IsSection data m) :
    sectionOf data sectionName = .error (.sectionNotMapping sectionName) := by
  rw [sectionOf]
  split
  · exact absurd (.absent ‹_›) (h _)
  · exact absurd (.null ‹_›) (h _)
  · exact absurd (.given ‹_›) (h _)
  · rfl

theorem knowsKeys_iff {m : Mapping} : KnowsKeys m ↔ unknownTexts m = [] :=
  unknownTexts_eq_nil_iff.symm

def limitOf (m : Mapping) : Except SettingsError Number :=
  match m.lookup "probe_timeout" with
  | none => .ok Settings.default.probeTimeout
  | some v => match realOf v with
    | .error _ => .error .timeoutNotANumber
    | .ok x => if x.isNonPositive then .error .timeoutNotPositive else .ok (.real x)

theorem givesLimit_iff {m : Mapping} {limit : Number} : GivesLimit m limit ↔ limitOf m = .ok limit := by
  constructor
  · rintro (h | ⟨hv, hx, hpos⟩)
    · rw [limitOf, h]
    · simp [limitOf, hv, hx, hpos]
  · intro h
    rw [limitOf] at h
    split at h
    · cases h
      exact .usual ‹_›
    · rename_i v hv
      split at h
      · cases h
      · rename_i x hx
        split at h
        · cases h
        · rename_i hpos
          cases h
          exact .given hv hx (Bool.eq_false_iff.2 hpos)

/-- What is to come of a section, computed. -/
def promised (homes : Homes) (m : Mapping) : Except SettingsError Settings :=
  if unknownTexts m = [] then
    match program? m with
    | none => .error .emptyProgram
    | some program => (limitOf m).map (settingsOf homes m program)
  else .error (.unknownKeys (unknownTexts m))

theorem promises_promised (homes : Homes) (m : Mapping) : Promises homes m (promised homes m) := by
  rw [promised]
  split
  · rename_i hk
    have hk : KnowsKeys m := knowsKeys_iff.2 hk
    split
    · exact .emptyProgram hk ‹_›
    · rename_i program hp
      cases hl : limitOf m with
      | ok limit => exact .settings hk hp (givesLimit_iff.2 hl)
      | error e =>
        rw [limitOf] at hl
        split at hl
        · cases hl
        · rename_i v hv
          split at hl
          · rename_i e' hx
            cases hl
            refine .notANumber hk hp hv ?_
            intro x hx'
            rw [hx] at hx'
            cases hx'
          · rename_i x hx
            split at hl
            · cases hl
              exact .notPositive hk hp hv hx ‹_›
            · cases hl
  · rename_i hne
    exact .unknownKeys hne (pairwise_unknownTexts m) fun s => mem_unknownTexts

theorem Promises.eq_promised {homes : Homes} {m : Mapping} {o : Except SettingsError Settings}
    (h : Promises homes m o) : o = promised homes m := by
  cases h with
  | unknownKeys hne hsorted hnames =>
    have heq := eq_of_pairwise_lt hsorted (pairwise_unknownTexts m) fun s => by
      rw [hnames, mem_unknownTexts]
    rw [promised, ← heq, if_neg hne]
  | emptyProgram hk hp => simp [promised, knowsKeys_iff.1 hk, hp]
  | notANumber hk hp hv hx =>
    have hl : limitOf m = .error .timeoutNotANumber := by
      simp only [limitOf, hv]
      split
      · rfl
      · exact absurd ‹_› (hx _)
    simp [promised, knowsKeys_iff.1 hk, hp, hl, Except.map]
  | notPositive hk hp hv hx hpos =>
    have hl : limitOf m = .error .timeoutNotPositive := by
      simp [limitOf, hv, hx, hpos]
    simp [promised, knowsKeys_iff.1 hk, hp, hl, Except.map]
  | settings hk hp hl =>
    simp [promised, knowsKeys_iff.1 hk, hp, givesLimit_iff.1 hl, Except.map]

theorem IsSection.unique {data m n : Mapping} (hm : IsSection data m) (hn : IsSection data n) :
    m = n :=
  Except.ok.inj ((isSection_iff.1 hm).symm.trans (isSection_iff.1 hn))

theorem documented_iff {homes : Homes} {data m : Mapping} (h : IsSection data m)
    {o : Except SettingsError Settings} : Documented homes data o ↔ Promises homes m o := by
  constructor
  · rintro (hno | ⟨hn, ho⟩)
    · exact absurd h (hno m)
    · rwa [h.unique hn]
  · exact fun ho => .mapping h ho

theorem Documented.exists_unique (homes : Homes) (data : Mapping) : ∃! o, Documented homes data o := by
  by_cases hs : ∃ m, IsSection data m
  · obtain ⟨m, hm⟩ := hs
    simp only [documented_iff hm]
    exact ⟨promised homes m, promises_promised homes m, fun o ho => ho.eq_promised⟩
  · have hno : ∀ m, ¬IsSection data m := fun m hm => hs ⟨m, hm⟩
    refine ⟨_, .notMapping hno, ?_⟩
    rintro o (_ | ⟨hm, -⟩)
    · rfl
    · exact absurd hm (hno _)

end Config
end Typeset
