import Typeset.Proofs.Config.Documentation
import Mathlib.Algebra.Group.Int.Defs
import Mathlib.Tactic.ByContra

/-!
# Which configuration is accepted

Reading a section comes to what is documented, unless a value that is looked at cannot be read at all.
What comes of a configuration depends neither on the order of its keys nor on its other sections.
-/

namespace Typeset

open Text Config

namespace Config

/-- A reading that has a value under a condition, and else ends in an unforeseen error. -/
structure Yields {α : Type} (x : Except SettingsError α) (c : Prop) (a : α) : Prop where
  of_holds : c → x = .ok a
  of_fails : ¬c → ∃ e ∈ unforeseen, x = .error e

theorem Yields.bind {α β : Type} {x : Except SettingsError α} {c d : Prop} {a : α}
    {f : α → Except SettingsError β} {b : β} (hx : Yields x c a) (hf : Yields (f a) d b) :
    Yields (x >>= f) (c ∧ d) b := by
  constructor
  · rintro ⟨hc, hd⟩
    rw [hx.of_holds hc]
    exact hf.of_holds hd
  · intro h
    by_cases hc : c
    · rw [hx.of_holds hc]
      exact hf.of_fails fun hd => h ⟨hc, hd⟩
    · obtain ⟨e, he, hxe⟩ := hx.of_fails hc
      exact ⟨e, he, by rw [hxe]; rfl⟩

theorem yields_pure {α : Type} (a : α) : Yields (pure a) True a := ⟨fun _ => rfl, fun h => absurd trivial h⟩

theorem Yields.congr {α : Type} {x : Except SettingsError α} {c d : Prop} {a : α}
    (hx : Yields x c a) (h : c ↔ d) : Yields x d a := by
  rwa [← h]

variable {room : Nat}

theorem yields_textOf (room : Nat) (v : Value) :
    Yields (textOf room v) (v.isWritable room = true) v.toText := by
  rw [Value.isWritable, Option.isNone_iff_eq_none, textOf]
  cases hf : v.flaw? room with
  | none => exact ⟨fun _ => rfl, fun h => absurd rfl h⟩
  | some flaw =>
    refine ⟨fun h => ?_, fun _ => ⟨.unwritable flaw, ?_, rfl⟩⟩
    · cases h
    · cases flaw <;> decide

theorem yields_optionalText (room : Nat) (v : Value) :
    Yields (optionalText room v) (v.isWritable room = true) (trimmedText? v) := by
  have hread : v ≠ .null → Yields (optionalText room v) (v.isWritable room = true)
      (trimmedText? v) := by
    intro hv
    obtain ⟨hok, herror⟩ := yields_textOf room v
    constructor
    · intro h
      cases v <;> first | exact absurd rfl hv | (simp only [optionalText, trimmedText?, hok h]; rfl)
    · intro h
      obtain ⟨e, he, htext⟩ := herror h
      refine ⟨e, he, ?_⟩
      cases v <;> first | exact absurd rfl hv | (simp only [optionalText, htext]; rfl)
  by_cases hv : v = .null
  · subst hv
    refine ⟨fun _ => rfl, fun h => absurd ?_ h⟩
    simp [Value.isWritable, Value.flaw?]
  · exact hread hv

theorem yields_unknownKeys (room : Nat) (m : Mapping) :
    Yields (unknownKeys room m) (∀ p ∈ m, p.1.isWritable room = true) (unknownTexts m) := by
  have hkeys : Yields (m.mapM fun p => textOf room p.1) (∀ p ∈ m, p.1.isWritable room = true)
      (m.map (·.1.toText)) := by
    induction m with
    | nil => exact ⟨fun _ => rfl, fun h => absurd (by simp) h⟩
    | cons p m ih =>
      rw [List.mapM_cons, List.map_cons]
      have hrest : Yields (do pure (p.1.toText :: (← m.mapM fun p => textOf room p.1)))
          ((∀ q ∈ m, q.1.isWritable room = true) ∧ True) (p.1.toText :: m.map (·.1.toText)) :=
        ih.bind (yields_pure _)
      refine ((yields_textOf room p.1).bind hrest).congr ?_
      rw [List.forall_mem_cons, and_true]
  have hpure : Yields (pure (unknownTexts m)) True (unknownTexts m) := yields_pure _
  exact (hkeys.bind hpure).congr (iff_of_eq (and_true _))

/-- The defaults can be written by everybody. -/
theorem isWritable_of_lookup_defaults {key : String} {d : Value} (h : defaults.lookup key = some d) :
    d.isWritable room = true := by
  have hmem := Mapping.mem_of_lookup h
  simp only [defaults, List.mem_cons, List.not_mem_nil, or_false, Prod.mk.injEq] at hmem
  rcases hmem with ⟨-, rfl⟩ | ⟨-, rfl⟩ | ⟨-, rfl⟩ | ⟨-, rfl⟩ | ⟨-, rfl⟩ | ⟨-, rfl⟩ <;>
    simp [Value.isWritable, Value.flaw?]

theorem yields_optionalText_valueOf (room : Nat) (key : String) {d : Value}
    (hd : defaults.lookup key = some d) (m : Mapping) :
    Yields (optionalText room (valueOf m key)) ((m.lookup key).all (Value.isWritable room) = true)
      ((m.lookup key).elim (trimmedText? d) trimmedText?) := by
  rw [valueOf]
  cases hv : m.lookup key with
  | none =>
    refine Yields.congr (by simpa [hd] using yields_optionalText room d) ?_
    simp [isWritable_of_lookup_defaults hd]
  | some v => exact yields_optionalText room v

theorem yields_optionalText_of_null (room : Nat) (key : String)
    (hd : defaults.lookup key = some .null) (m : Mapping) :
    Yields (optionalText room (valueOf m key)) ((m.lookup key).all (Value.isWritable room) = true)
      ((m.lookup key).bind trimmedText?) := by
  have hyields := yields_optionalText_valueOf room key hd m
  cases hv : m.lookup key <;> simpa [hv, trimmedText?] using hyields

theorem yields_directoryOf (homes : Homes) (path : Option String) :
    Yields (directoryOf homes path) (∀ s, path = some s → homes.Expands s)
      (path.map (expanded homes)) := by
  cases path with
  | none => exact ⟨fun _ => rfl, fun h => absurd (by simp) h⟩
  | some s =>
    simp only [Option.some.injEq, forall_eq', Homes.Expands]
    cases h : homes.expand s with
    | error f =>
      refine ⟨by simp, fun _ => ⟨.flawedHome f, ?_, by rw [directoryOf, h]; rfl⟩⟩
      cases f <;> decide
    | ok d => exact ⟨fun _ => by rw [directoryOf, Option.map_some, expanded, h]; rfl, by simp⟩

/-- The only number without a limit is an integer that is too large for floating point. -/
theorem realOf_eq_error {v : Value} {e : SettingsError} (h : realOf v = .error e) :
    e = .timeoutNotANumber ∨ e = .timeoutTooLarge ∧ ∃ n, v = .int n ∧ Binary64.ofInt? n = none := by
  cases v with
  | text s =>
    simp only [realOf] at h
    cases hr : Binary64.read? s <;> simp_all [eq_comm]
  | bytes bs =>
    simp only [realOf] at h
    cases hr : (asciiText? bs).bind Numeral.read? <;> simp_all [eq_comm]
  | bool b =>
    have hb : ∃ x, realOf (.bool b) = .ok x := by
      cases b
      · exact ⟨_, rfl⟩
      · exact ⟨_, rfl⟩
    obtain ⟨x, hx⟩ := hb
    rw [hx] at h
    cases h
  | int n =>
    simp only [realOf, Value.number?, Number.toReal?] at h
    cases hn : Binary64.ofInt? n with
    | none =>
      rw [hn] at h
      cases h
      exact .inr ⟨rfl, n, rfl, hn⟩
    | some x => rw [hn] at h; cases h
  | real x => cases h
  | _ =>
    cases h
    exact .inl rfl

def readLimit (m : Mapping) : Except SettingsError Number :=
  Number.real <$> timeoutOf (valueOf m "probe_timeout")

theorem readLimit_eq_limitOf {m : Mapping}
    (h : ∀ n, m.lookup "probe_timeout" = some (.int n) → (Binary64.ofInt? n).isSome = true) :
    readLimit m = limitOf m := by
  cases hv : m.lookup "probe_timeout" with
  | none =>
    simp only [readLimit, valueOf, limitOf, hv]
    rfl
  | some v =>
    simp only [readLimit, valueOf, limitOf, hv, Option.some_or, Option.getD_some, timeoutOf]
    cases hx : realOf v with
    | error e =>
      rcases realOf_eq_error hx with rfl | ⟨-, n, rfl, hn⟩
      · rfl
      · have := h n hv
        rw [hn] at this
        cases this
    | ok x =>
      cases hpos : x.isNonPositive <;> simp [hpos, bind, Except.bind] <;> rfl

theorem readLimit_of_tooLarge {m : Mapping} {n : Int}
    (hv : m.lookup "probe_timeout" = some (.int n)) (hn : Binary64.ofInt? n = none) :
    readLimit m = .error .timeoutTooLarge := by
  simp [readLimit, valueOf, hv, timeoutOf, realOf, Value.number?, Number.toReal?, hn]
  rfl

end Config

namespace Settings

variable {homes : Homes} {room : Nat} {m : Mapping} {program : String} {limit : Number}

def readTexts (homes : Homes) (room : Nat) (m : Mapping) (program : String) (limit : Number) :
    Except SettingsError Settings := do
  let scripts ← optionalText room (valueOf m "scripts_dir")
  let share ← optionalText room (valueOf m "share_dir")
  let flag ← optionalText room (valueOf m "probe_flag")
  let share ← directoryOf homes share
  let scripts ← directoryOf homes scripts
  let log ← optionalText room (valueOf m "log")
  pure {
    program := program
    probeFlag := flag.getD flagOfBlank
    probeTimeout := limit
    shareDirectory := share
    scriptsDirectory := scripts.map PosixPath.ofText
    log := log }

theorem ofSection_eq_bind (homes : Homes) (room : Nat) (m : Mapping) :
    ofSection homes room m = unknownKeys room m >>= fun unknown =>
      if unknown ≠ [] then .error (.unknownKeys unknown)
      else optionalText room (valueOf m "program") >>= fun program =>
        match program with
        | none => .error .emptyProgram
        | some program => readLimit m >>= readTexts homes room m program := by
  rw [ofSection]
  congr 1
  funext unknown
  by_cases hu : unknown ≠ []
  · simp only [if_pos hu]
    rfl
  · simp only [if_neg hu]
    congr 1
    funext program
    cases program with
    | none => rfl
    | some program =>
      simp only [readLimit]
      cases timeoutOf (valueOf m "probe_timeout") <;> rfl

/-- The flag of a section that gives none, or a blank one, is that of the settings without a
configuration. -/
theorem getD_flag (m : Mapping) :
    ((m.lookup "probe_flag").elim (trimmedText? (.text "--version")) trimmedText?).getD flagOfBlank =
      ((m.lookup "probe_flag").bind trimmedText?).getD default.probeFlag := by
  cases m.lookup "probe_flag" with
  | none =>
    have htrim : trimmedText? (.text "--version") = some "--version" := by decide
    rw [Option.elim_none, htrim]
    rfl
  | some v => rfl

theorem program?_eq (m : Mapping) :
    (m.lookup "program").elim (trimmedText? (.text "texi2dvi")) trimmedText? = program? m := by
  rw [program?]
  cases m.lookup "program" with
  | none =>
    have htrim : trimmedText? (.text "texi2dvi") = some "texi2dvi" := by decide
    exact htrim
  | some v => rfl

theorem yields_readTexts (homes : Homes) (room : Nat) (m : Mapping) (program : String)
    (limit : Number) :
    Yields (readTexts homes room m program limit) (WritableTexts room m ∧ ExpandableHomes homes m)
      (settingsOf homes m program limit) := by
  rw [settingsOf, ← getD_flag]
  have hshare := yields_optionalText_of_null room "share_dir" rfl m
  have hscripts := yields_optionalText_of_null room "scripts_dir" rfl m
  have hflag := yields_optionalText_valueOf room "probe_flag" rfl m
  have hlog := yields_optionalText_of_null room "log" rfl m
  refine Yields.congr (hscripts.bind (hshare.bind (hflag.bind ((yields_directoryOf homes _).bind
    ((yields_directoryOf homes _).bind (hlog.bind (yields_pure _))))))) ?_
  simp only [WritableTexts, ExpandableHomes, List.forall_mem_cons]
  constructor
  · rintro ⟨hscripts, hshare, hflag, hshare', hscripts', hlog, -⟩
    exact ⟨⟨hscripts, hshare, hflag, hlog, by simp⟩, hscripts', hshare', by simp⟩
  · rintro ⟨⟨hscripts, hshare, hflag, hlog, -⟩, hscripts', hshare', -⟩
    exact ⟨hscripts, hshare, hflag, hshare', hscripts', hlog, trivial⟩

/-- What comes of a section that passes its first check, of keys that can be written. -/
theorem ofSection_of_keys (hkeys : ∀ p ∈ m, p.1.isWritable room = true) :
    ofSection homes room m =
      if unknownTexts m ≠ [] then .error (.unknownKeys (unknownTexts m))
      else optionalText room (valueOf m "program") >>= fun program =>
        match program with
        | none => .error .emptyProgram
        | some program => readLimit m >>= readTexts homes room m program := by
  rw [ofSection_eq_bind, (yields_unknownKeys room m).of_holds hkeys]
  rfl

theorem yields_program (room : Nat) (m : Mapping) :
    Yields (optionalText room (valueOf m "program"))
      ((m.lookup "program").all (Value.isWritable room) = true) (program? m) := by
  rw [← program?_eq]
  exact yields_optionalText_valueOf room "program" rfl m

theorem ofSection_of_program (hkeys : ∀ p ∈ m, p.1.isWritable room = true) (hk : KnowsKeys m)
    (hp : (m.lookup "program").all (Value.isWritable room) = true) :
    ofSection homes room m =
      match program? m with
      | none => .error .emptyProgram
      | some program => readLimit m >>= readTexts homes room m program := by
  rw [ofSection_of_keys hkeys, if_neg (not_not.2 (knowsKeys_iff.1 hk)),
    (yields_program room m).of_holds hp]
  rfl

theorem ofSection_of_readable (h : Readable homes room m) :
    ofSection homes room m = promised homes m := by
  rw [promised]
  split
  · rename_i hk
    have hk : KnowsKeys m := knowsKeys_iff.2 hk
    rw [ofSection_of_program h.keys hk (h.program hk)]
    cases hp : program? m with
    | none => rfl
    | some program =>
      simp only [readLimit_eq_limitOf (h.limit hk program hp)]
      cases hl : limitOf m with
      | error e => rfl
      | ok limit =>
        have hg : GivesLimit m limit := givesLimit_iff.2 hl
        exact (yields_readTexts homes room m program limit).of_holds
          ⟨h.texts hk program hp limit hg, h.homes hk program hp limit hg⟩
  · rename_i hne
    rw [ofSection_of_keys h.keys, if_pos hne]

theorem exists_unforeseen_bind {α β : Type} {x : Except SettingsError α}
    {f : α → Except SettingsError β} (h : ∃ e ∈ unforeseen, x = .error e) :
    ∃ e ∈ unforeseen, (x >>= f) = .error e := by
  obtain ⟨e, he, hx⟩ := h
  exact ⟨e, he, by rw [hx]; rfl⟩

/-- Each condition of readability is met where its absence would end the reading. -/
theorem readable_of_forall (h : ∀ e ∈ unforeseen, ofSection homes room m ≠ .error e) :
    Readable homes room m := by
  have hno : ¬∃ e ∈ unforeseen, ofSection homes room m = .error e := by
    rintro ⟨e, he, heq⟩
    exact h e he heq
  have hkeys : ∀ p ∈ m, p.1.isWritable room = true := by
    by_contra hkeys
    refine hno ?_
    rw [ofSection_eq_bind]
    exact exists_unforeseen_bind ((yields_unknownKeys room m).of_fails hkeys)
  have hprogram : KnowsKeys m → (m.lookup "program").all (Value.isWritable room) = true := by
    intro hk
    by_contra hprogram
    refine hno ?_
    rw [ofSection_of_keys hkeys, if_neg (not_not.2 (knowsKeys_iff.1 hk))]
    exact exists_unforeseen_bind ((yields_program room m).of_fails hprogram)
  have hlater : KnowsKeys m → ∀ s, program? m = some s →
      ofSection homes room m = readLimit m >>= readTexts homes room m s := by
    intro hk s hp
    rw [ofSection_of_program hkeys hk (hprogram hk), hp]
  have hlimit : KnowsKeys m → ∀ s, program? m = some s → ∀ n,
      m.lookup "probe_timeout" = some (.int n) → (Binary64.ofInt? n).isSome = true := by
    intro hk s hp n hn
    by_contra hlarge
    refine h .timeoutTooLarge (by decide) ?_
    rw [hlater hk s hp, readLimit_of_tooLarge hn (Option.not_isSome_iff_eq_none.1 hlarge)]
    rfl
  have hrest : KnowsKeys m → ∀ s, program? m = some s → ∀ x, GivesLimit m x →
      WritableTexts room m ∧ ExpandableHomes homes m := by
    intro hk s hp x hx
    by_contra hrest
    refine hno ?_
    rw [hlater hk s hp, readLimit_eq_limitOf (hlimit hk s hp), givesLimit_iff.1 hx]
    exact (yields_readTexts homes room m s x).of_fails hrest
  exact ⟨hkeys, hprogram, hlimit, fun hk s hp x hx => (hrest hk s hp x hx).1,
    fun hk s hp x hx => (hrest hk s hp x hx).2⟩

theorem not_mem_unforeseen_of_promises {e : SettingsError} (h : Promises homes m (.error e)) :
    e ∉ unforeseen := by
  cases h <;> simp [unforeseen]

theorem promises_ofSection_iff :
    Promises homes m (ofSection homes room m) ↔ Readable homes room m := by
  constructor
  · intro h
    refine readable_of_forall fun e he heq => ?_
    rw [heq] at h
    exact not_mem_unforeseen_of_promises h he
  · intro h
    rw [ofSection_of_readable h]
    exact promises_promised homes m

theorem ofSection_unforeseen_iff :
    (∃ e ∈ unforeseen, ofSection homes room m = .error e) ↔ ¬Readable homes room m := by
  constructor
  · rintro ⟨e, he, heq⟩ h
    have hp : Promises homes m (ofSection homes room m) := promises_ofSection_iff.2 h
    rw [heq] at hp
    exact not_mem_unforeseen_of_promises hp he
  · intro h
    by_contra hno
    exact h (readable_of_forall fun e he heq => hno ⟨e, he, heq⟩)

theorem ofMapping_of_isSection {data : Mapping} (h : IsSection data m) :
    ofMapping homes data room = ofSection homes room m := by
  rw [ofMapping, isSection_iff.1 h]
  rfl

theorem ofMapping_of_forall {data : Mapping} (h : ∀ m, ¬IsSection data m) :
    ofMapping homes data room = .error (.sectionNotMapping sectionName) := by
  rw [ofMapping, sectionOf_of_forall h]
  rfl

theorem documented_ofMapping_iff {data : Mapping} :
    Documented homes data (ofMapping homes data room) ↔
      ∀ m, IsSection data m → Readable homes room m := by
  by_cases hs : ∃ m, IsSection data m
  · obtain ⟨m, hm⟩ := hs
    rw [ofMapping_of_isSection hm, documented_iff hm, promises_ofSection_iff]
    constructor
    · intro h n hn
      rwa [← hm.unique hn]
    · exact fun h => h m hm
  · have hno : ∀ m, ¬IsSection data m := fun m hm => hs ⟨m, hm⟩
    rw [ofMapping_of_forall hno]
    exact ⟨fun _ m hm => absurd hm (hno m), fun _ => .notMapping hno⟩

theorem ofMapping_unforeseen_iff {data : Mapping} :
    (∃ e ∈ unforeseen, ofMapping homes data room = .error e) ↔
      ∃ m, IsSection data m ∧ ¬Readable homes room m := by
  by_cases hs : ∃ m, IsSection data m
  · obtain ⟨m, hm⟩ := hs
    rw [ofMapping_of_isSection hm, ofSection_unforeseen_iff]
    constructor
    · exact fun h => ⟨m, hm, h⟩
    · rintro ⟨n, hn, h⟩
      rwa [hm.unique hn]
  · rw [ofMapping_of_forall fun m hm => hs ⟨m, hm⟩]
    constructor
    · rintro ⟨e, he, heq⟩
      cases heq
      simp [unforeseen] at he
    · rintro ⟨m, hm, -⟩
      exact absurd ⟨m, hm⟩ hs

/-! ## What does not matter -/

section Order
variable {n : Mapping} (hlookup : ∀ key, m.lookup key = n.lookup key) (hmem : ∀ p, p ∈ m ↔ p ∈ n)
include hlookup hmem

theorem promised_congr : promised homes n = promised homes m := by
  have htexts : unknownTexts m = unknownTexts n := unknownTexts_congr hmem
  have hsettings : settingsOf homes m = settingsOf homes n := by
    funext program limit
    simp only [settingsOf, hlookup]
  simp only [promised, program?, limitOf, htexts, hlookup, hsettings]

theorem readable_congr (h : Readable homes room m) : Readable homes room n := by
  have hk : KnowsKeys n → KnowsKeys m := fun hk p hp => hk p ((hmem p).1 hp)
  have hp : program? n = program? m := by simp only [program?, hlookup]
  have hl : ∀ x, GivesLimit n x → GivesLimit m x := by
    simp only [givesLimit_iff, limitOf, hlookup, imp_self, implies_true]
  obtain ⟨hkeys, hprogram, hlimit, htexts, hhomes⟩ := h
  simp only [WritableTexts, ExpandableHomes, hlookup, ← hp] at hprogram hlimit htexts hhomes
  exact ⟨fun p hp => hkeys p ((hmem p).2 hp), fun h => hprogram (hk h),
    fun h => hlimit (hk h), fun h s hs x hx => htexts (hk h) s hs x (hl x hx),
    fun h s hs x hx => hhomes (hk h) s hs x (hl x hx)⟩

end Order

theorem ofMapping_congr {data data' : Mapping}
    (h : data'.lookup sectionName = data.lookup sectionName) :
    ofMapping homes data' room = ofMapping homes data room := by
  rw [ofMapping, ofMapping, sectionOf, sectionOf, h]

/-- Which of several flaws is met first may depend on the order, and nothing else does. -/
theorem ofMapping_of_perm {data data' m m' : Mapping}
    (hm : data.lookup sectionName = some (.map m)) (hd : m.Distinct) (hp : m.Perm m')
    (hm' : data'.lookup sectionName = some (.map m')) :
    ofMapping homes data' room = ofMapping homes data room ∨
      (∃ e ∈ unforeseen, ofMapping homes data room = .error e) ∧
        ∃ e ∈ unforeseen, ofMapping homes data' room = .error e := by
  have hmem : ∀ p, p ∈ m ↔ p ∈ m' := fun p => hp.mem_iff
  have hlookup : ∀ key, m.lookup key = m'.lookup key := hd.lookup_eq hmem
  rw [ofMapping_of_isSection (.given hm), ofMapping_of_isSection (.given hm')]
  by_cases hr : Readable homes room m
  · left
    rw [ofSection_of_readable hr, ofSection_of_readable (readable_congr hlookup hmem hr),
      promised_congr hlookup hmem]
  · right
    refine ⟨ofSection_unforeseen_iff.2 hr, ofSection_unforeseen_iff.2 fun hr' => hr ?_⟩
    exact readable_congr (fun key => (hlookup key).symm) (fun p => (hmem p).symm) hr'

/-- For every configuration exactly one outcome is documented: an error for a section that is no
mapping, for its unknown keys, for its program or for its limit, in this order, or else its settings. It
is the outcome, unless a value that is looked at cannot be read; then the outcome is an error
that is not documented. The errors say what is wrong, and the order of the keys and the other sections
change nothing, except which of several values that cannot be read is met first. -/
theorem accepted_as_documented (homes : Homes) (room : Nat) (data : Mapping) :
    (∃! o, Documented homes data o) ∧
    (Documented homes data (ofMapping homes data room) ↔
      ∀ m, IsSection data m → Readable homes room m) ∧
    ((∃ e ∈ unforeseen, ofMapping homes data room = .error e) ↔
      ∃ m, IsSection data m ∧ ¬Readable homes room m) ∧
    ((∀ names, (SettingsError.unknownKeys names).message =
        "Configuration section 'texpdf' contains unknown keys: " ++ ", ".intercalate names) ∧
      SettingsError.timeoutNotANumber.message =
        "Configuration key 'probe_timeout' must be a number" ∧
      SettingsError.timeoutNotPositive.message =
        "Configuration key 'probe_timeout' must be positive") ∧
    ∀ data' : Mapping,
      ((data'.lookup sectionName = data.lookup sectionName ∨ data.Distinct ∧ data.Perm data') →
        ofMapping homes data' room = ofMapping homes data room) ∧
      ∀ m m' : Mapping, data.lookup sectionName = some (.map m) → m.Distinct → m.Perm m' →
        data'.lookup sectionName = some (.map m') →
        ofMapping homes data' room = ofMapping homes data room ∨
          (∃ e ∈ unforeseen, ofMapping homes data room = .error e) ∧
            ∃ e ∈ unforeseen, ofMapping homes data' room = .error e := by
  refine ⟨Documented.exists_unique homes data, documented_ofMapping_iff, ofMapping_unforeseen_iff,
    ⟨fun _ => rfl, rfl, rfl⟩, fun data' => ⟨?_, fun m m' => ofMapping_of_perm⟩⟩
  rintro (h | ⟨hd, hp⟩)
  · exact ofMapping_congr h
  · exact ofMapping_congr (hd.lookup_eq (fun p => hp.mem_iff) sectionName).symm

/-- An integer that is too large for a limit is not said to be no number. -/
theorem huge_limit_unforeseen :
    let huge : Mapping := [(.text "texpdf", .map [(.text "probe_timeout", .int (10 ^ 400))])]
    ¬Documented .empty huge (ofMapping .empty huge) := by
  intro huge h
  have hreadable : Readable .empty nestingRoom [(.text "probe_timeout", .int (10 ^ 400))] :=
    documented_ofMapping_iff.1 h _ (.given rfl)
  have hknown : KnowsKeys [(.text "probe_timeout", .int (10 ^ 400))] :=
    knowsKeys_iff.2 (by decide)
  have hfits := hreadable.limit hknown _ rfl (10 ^ 400) rfl
  have htoo : (Binary64.ofInt? (10 ^ 400)).isSome = false := by decide +kernel
  rw [htoo] at hfits
  cases hfits

end Settings
end Typeset
