import Typeset.Proofs.FileSystem.EntryNames

/-!
# Walks put together

A walk that arrives may be cut anywhere, and walks that meet may be put together; the links that the
parts follow add up. Where a walk arrives does not depend on how many links it could have followed.
So the place that names lead to is a matter of the names alone, and can be told part by part.
-/

namespace Typeset.FileSystem
open Text PosixPath

variable {fs : FileSystem} {here mid loc : Location} {todo front back : List String} {k l : Nat}

theorem Leads.mono (h : fs.Leads k here todo loc) (hkl : k ≤ l) : fs.Leads l here todo loc := by
  induction h generalizing l with
  | done links here => exact .done l here
  | stay hd hn h ih => exact .stay hd hn (ih hkl)
  | up hd h ih => exact .up hd (ih hkl)
  | @follow links here loc name target rest hd hn hu hl he ht h ih =>
    obtain ⟨l, rfl⟩ : ∃ m, l = m + 1 := ⟨l - 1, by omega⟩
    exact .follow hd hn hu hl he ht (ih (by omega))
  | enter hd hn hu hl he hk h ih => exact .enter hd hn hu hl he hk (ih hkl)

theorem Leads.unique {loc' : Location} (h : fs.Leads k here todo loc)
    (h' : fs.Leads l here todo loc') : loc = loc' := by
  have hw := (h.mono (Nat.le_max_left k l)).walk_eq
  have hw' := (h'.mono (Nat.le_max_right k l)).walk_eq
  exact Except.ok.inj (hw.symm.trans hw')

theorem Leads.append (h : fs.Leads k here front mid) (h' : fs.Leads l mid back loc) :
    fs.Leads (k + l) here (front ++ back) loc := by
  induction h with
  | done links here => exact h'.mono (Nat.le_add_left l links)
  | stay hd hn h ih => exact .stay hd hn (ih h')
  | up hd h ih => exact .up hd (ih h')
  | @follow links here loc name target rest hd hn hu hl he ht h ih =>
    have hrest := ih h'
    rw [List.append_assoc] at hrest
    rw [Nat.add_right_comm]
    exact .follow hd hn hu hl he ht hrest
  | enter hd hn hu hl he hk h ih => exact .enter hd hn hu hl he hk (ih h')

theorem Leads.split_nil (h : fs.Leads k here back loc) :
    ∃ mid l m, l + m = k ∧ fs.Leads l here [] mid ∧ fs.Leads m mid back loc :=
  ⟨here, 0, k, Nat.zero_add k, .done 0 here, h⟩

-- The induction is on the walk and not on the first part: behind a link the walk goes on with the
-- names of its target, which belong to the first part then.
theorem Leads.split (h : fs.Leads k here (front ++ back) loc) :
    ∃ mid l m, l + m = k ∧ fs.Leads l here front mid ∧ fs.Leads m mid back loc := by
  generalize hall : front ++ back = todo at h
  induction h generalizing front with
  | done links here =>
    obtain ⟨rfl, rfl⟩ := List.append_eq_nil_iff.1 hall
    exact (Leads.done links here).split_nil
  | stay hd hn h ih =>
    cases front with
    | nil => exact (show back = _ from hall) ▸ (Leads.stay hd hn h).split_nil
    | cons n front =>
      obtain ⟨rfl, hrest⟩ := List.cons.inj hall
      obtain ⟨mid, l, m, hk, hf, hb⟩ := ih hrest
      exact ⟨mid, l, m, hk, .stay hd hn hf, hb⟩
  | up hd h ih =>
    cases front with
    | nil => exact (show back = _ from hall) ▸ (Leads.up hd h).split_nil
    | cons n front =>
      obtain ⟨rfl, hrest⟩ := List.cons.inj hall
      obtain ⟨mid, l, m, hk, hf, hb⟩ := ih hrest
      exact ⟨mid, l, m, hk, .up hd hf, hb⟩
  | @follow links here loc name target rest hd hn hu hl he ht h ih =>
    cases front with
    | nil => exact (show back = _ from hall) ▸ (Leads.follow hd hn hu hl he ht h).split_nil
    | cons n front =>
      obtain ⟨rfl, rfl⟩ := List.cons.inj hall
      obtain ⟨mid, l, m, hk, hf, hb⟩ := ih (List.append_assoc (split '/' target) front back)
      exact ⟨mid, l + 1, m, by omega, .follow hd hn hu hl he ht hf, hb⟩
  | enter hd hn hu hl he hk h ih =>
    cases front with
    | nil => exact (show back = _ from hall) ▸ (Leads.enter hd hn hu hl he hk h).split_nil
    | cons n front =>
      obtain ⟨rfl, hrest⟩ := List.cons.inj hall
      obtain ⟨mid, l, m, hm, hf, hb⟩ := ih hrest
      exact ⟨mid, l, m, hm, .enter hd hn hu hl he hk hf, hb⟩

theorem Leads.hasDirectory {name : String} (h : fs.Leads k here (name :: todo) loc) :
    fs.hasDirectory here = true := by
  cases h <;> assumption

theorem Leads.exists_entry {name : String} (h : fs.Leads k here (name :: todo) loc)
    (hname : isHere name = false) (habove : name ≠ "..") : ∃ e, fs.entry? (here ++ [name]) = some e := by
  cases h with
  | stay hd hn h => rw [hname] at hn; cases hn
  | up hd h => exact absurd rfl habove
  | follow hd hn hu hl he ht h => exact ⟨_, he⟩
  | enter hd hn hu hl he hk h => exact ⟨_, he⟩

/-- Names that lead through directories to an entry, without a link or two dots on the way. -/
structure HasPlain (fs : FileSystem) (here : Location) (names : List String) (e : Entry) : Prop where
  steps : ∀ n ∈ names, isHere n = false ∧ n ≠ ".." ∧ n.utf8ByteSize ≤ nameLimit
  directories : ∀ k < names.length, fs.hasDirectory (here ++ names.take k) = true
  entry : fs.entry? (here ++ names) = some e
  not_link : ∀ target, e ≠ .link target

def isLink : Entry → Bool
  | .link _ => true
  | _ => false

theorem isLink_eq_false_iff {e : Entry} : isLink e = false ↔ ∀ target, e ≠ .link target := by
  cases e <;> simp [isLink]

instance (fs : FileSystem) (here : Location) (names : List String) (e : Entry) :
    Decidable (fs.HasPlain here names e) :=
  decidable_of_iff
    ((∀ n ∈ names, isHere n = false ∧ n ≠ ".." ∧ n.utf8ByteSize ≤ nameLimit) ∧
      (∀ k < names.length, fs.hasDirectory (here ++ names.take k) = true) ∧
      fs.entry? (here ++ names) = some e ∧ isLink e = false)
    ⟨fun ⟨hs, hd, he, hl⟩ => ⟨hs, hd, he, isLink_eq_false_iff.1 hl⟩,
      fun ⟨hs, hd, he, hl⟩ => ⟨hs, hd, he, isLink_eq_false_iff.2 hl⟩⟩

namespace HasPlain
variable {n : String} {names : List String} {e : Entry}

theorem tail (h : fs.HasPlain here (n :: names) e) : fs.HasPlain (here ++ [n]) names e where
  steps := (List.forall_mem_cons.1 h.steps).2
  directories k hk := by simpa using h.directories (k + 1) (by simpa using hk)
  entry := by simpa using h.entry
  not_link := h.not_link

theorem hasDirectory (h : fs.HasPlain here (n :: names) e) : fs.hasDirectory here = true := by
  simpa using h.directories 0 (by simp)

theorem exists_entry (h : fs.HasPlain here (n :: names) e) :
    ∃ e', fs.entry? (here ++ [n]) = some e' ∧ ∀ target, e' ≠ .link target := by
  cases names with
  | nil => exact ⟨e, h.entry, h.not_link⟩
  | cons m names =>
    have hd := h.tail.hasDirectory
    exact ⟨.directory, by simpa [FileSystem.hasDirectory] using hd, by rintro _ ⟨⟩⟩

theorem leads (h : fs.HasPlain here names e) : fs.Leads 0 here names (here ++ names) := by
  induction names generalizing here with
  | nil =>
    rw [List.append_nil]
    exact .done 0 here
  | cons n names ih =>
    obtain ⟨hhere, habove, hlimit⟩ := h.steps n (.head _)
    obtain ⟨e', he, hk⟩ := h.exists_entry
    have hrest := ih h.tail
    rw [List.append_assoc] at hrest
    exact .enter h.hasDirectory hhere habove hlimit he hk hrest

/-- The real path of such names is what they are. -/
theorem realNames_eq {cwd : Location} {w : Waypoint} (h : fs.HasPlain (w.location cwd) names e)
    (depth : Nat) (memory : LinkMemory) :
    fs.realNames cwd depth w names memory = .complete ⟨w.above, w.names ++ names⟩ memory := by
  induction names generalizing w with
  | nil =>
    rw [realNames, List.append_nil]
  | cons n names ih =>
    obtain ⟨hhere, habove, -⟩ := h.steps n (.head _)
    obtain ⟨e', he, hk⟩ := h.exists_entry
    rw [← Waypoint.location_enter] at he
    have hrest := ih (w := w.enter n) (by rw [Waypoint.location_enter]; exact h.tail)
    rw [Waypoint.enter, List.append_assoc] at hrest
    rw [realNames, hhere, if_neg Bool.false_ne_true, if_neg habove]
    simp only [he]
    cases e' with
    | link target => exact absurd rfl (hk target)
    | _ => exact hrest

end HasPlain

theorem leads_of_directories {names : List String}
    (hn : ∀ n ∈ names, isHere n = false ∧ n ≠ ".." ∧ n.utf8ByteSize ≤ nameLimit)
    (hd : ∀ k ≤ names.length, fs.hasDirectory (here ++ names.take k) = true) :
    fs.Leads 0 here names (here ++ names) := by
  have hlast : fs.entry? (here ++ names) = some .directory := by
    simpa [hasDirectory] using hd names.length le_rfl
  exact HasPlain.leads ⟨hn, fun k hk => hd k hk.le, hlast, by rintro _ ⟨⟩⟩

/-- A text that the system can be asked about, and that consists of these names. -/
def Spells (path : String) (names : List String) : Prop :=
  '\x00' ∉ path.toList ∧ path ≠ "" ∧ path.utf8ByteSize ≤ pathLimit ∧
    split '/' path = if path.front = '/' then "" :: names else names

instance (path : String) (names : List String) : Decidable (Spells path names) :=
  inferInstanceAs (Decidable (_ ∧ _ ∧ _ ∧ _))

section Spelled
variable {cwd : Location} {path : String} {names : List String} {e : Entry}

theorem HasPlain.locate_of_relative (h : fs.HasPlain cwd names e) (hp : Spells path names)
    (hf : path.front ≠ '/') : fs.locate cwd path = .ok (cwd ++ names) := by
  obtain ⟨hz, hne, hl, hs⟩ := hp
  refine locate_eq_ok_iff.2 ⟨hz, hne, hl, ?_⟩
  rw [hs, if_neg hf, if_neg hf]
  exact h.leads.mono (Nat.zero_le _)

theorem HasPlain.locate_of_absolute (h : fs.HasPlain [] names e) (hp : Spells path names)
    (hf : path.front = '/') : fs.locate cwd path = .ok names := by
  obtain ⟨hz, hne, hl, hs⟩ := hp
  refine locate_eq_ok_iff.2 ⟨hz, hne, hl, ?_⟩
  rw [hs, if_pos hf, if_pos hf]
  exact .stay rfl rfl (h.leads.mono (Nat.zero_le _))

/-- From the root directory the names lead the same way, wherever one stands. -/
theorem HasPlain.realNamesOf_of_absolute (h : fs.HasPlain [] names e) (hp : Spells path names)
    (hf : path.front = '/') (cwd : Location) :
    fs.realNamesOf cwd path = .complete ⟨none, names⟩ [] := by
  have hs := hp.2.2.2
  rw [if_pos hf] at hs
  have hhere : isHere "" = true := rfl
  rw [← Waypoint.location_root cwd] at h
  rw [realNamesOf, if_pos hf, hs, realNames, if_pos hhere, h.realNames_eq]
  rfl

theorem HasPlain.realPath_eq (h : fs.HasPlain cwd names e) (hp : Spells path names)
    (hf : path.front ≠ '/') : fs.realPath cwd path = ⟨.root, cwd ++ names⟩ := by
  rw [← Waypoint.location_here cwd] at h
  have hs := hp.2.2.2
  rw [if_neg hf] at hs
  rw [realPath, realNamesOf, if_neg hf, hs, h.realNames_eq]
  simp [Waypoint.here, Waypoint.location]

end Spelled

/-- Names lead from one place to another, with as many links on the way as there are. -/
def Reaches (fs : FileSystem) (here : Location) (todo : List String) (loc : Location) : Prop :=
  ∃ k, fs.Leads k here todo loc

namespace Reaches

theorem unique {loc' : Location} (h : fs.Reaches here todo loc) (h' : fs.Reaches here todo loc') :
    loc = loc' := by
  obtain ⟨k, h⟩ := h
  obtain ⟨l, h'⟩ := h'
  exact h.unique h'

theorem append_iff : fs.Reaches here (front ++ back) loc ↔
    ∃ mid, fs.Reaches here front mid ∧ fs.Reaches mid back loc := by
  constructor
  · rintro ⟨k, h⟩
    obtain ⟨mid, l, m, -, hf, hb⟩ := h.split
    exact ⟨mid, ⟨l, hf⟩, ⟨m, hb⟩⟩
  · rintro ⟨mid, ⟨l, hf⟩, ⟨m, hb⟩⟩
    exact ⟨l + m, hf.append hb⟩

theorem cons_iff {name : String} : fs.Reaches here (name :: todo) loc ↔
    ∃ mid, fs.Reaches here [name] mid ∧ fs.Reaches mid todo loc := by
  rw [← append_iff, List.singleton_append]

/-- Once it is known where the first names lead, only the others count. -/
theorem append_iff_of_reaches (h : fs.Reaches here front mid) :
    fs.Reaches here (front ++ back) loc ↔ fs.Reaches mid back loc := by
  rw [append_iff]
  constructor
  · rintro ⟨mid', hf, hb⟩
    obtain rfl := h.unique hf
    exact hb
  · exact fun hb => ⟨mid, h, hb⟩

theorem hasDirectory {name : String} (h : fs.Reaches here (name :: todo) loc) :
    fs.hasDirectory here = true := by
  obtain ⟨k, h⟩ := h
  exact h.hasDirectory

theorem cons_iff_of_isHere {name : String} (hn : isHere name = true) :
    fs.Reaches here (name :: todo) loc ↔
      fs.hasDirectory here = true ∧ fs.Reaches here todo loc := by
  constructor
  · intro h
    refine ⟨h.hasDirectory, ?_⟩
    obtain ⟨k, h⟩ := h
    cases h with
    | stay hd hn' h => exact ⟨_, h⟩
    | up hd h => cases hn
    | follow hd hn' hu hl he ht h => rw [hn] at hn'; cases hn'
    | enter hd hn' hu hl he hk h => rw [hn] at hn'; cases hn'
  · rintro ⟨hd, k, h⟩
    exact ⟨k, .stay hd hn h⟩

/-- Where more names follow, those that lead nowhere may be dropped. -/
theorem filter_isName_iff {name : String} :
    fs.Reaches here (front.filter isName ++ name :: back) loc ↔
      fs.Reaches here (front ++ name :: back) loc := by
  induction front generalizing here with
  | nil => rfl
  | cons n front ih =>
    cases hn : isName n with
    | true =>
      rw [List.filter_cons_of_pos hn, List.cons_append, List.cons_append, cons_iff, cons_iff]
      exact exists_congr fun mid => and_congr_right fun _ => ih
    | false =>
      have hhere : isHere n = true := by simp [Thinned.isHere_eq_not_isName, hn]
      rw [List.filter_cons_of_neg (by simp [hn]), List.cons_append, cons_iff_of_isHere hhere, ih]
      constructor
      · intro h
        refine ⟨?_, h⟩
        obtain ⟨first, rest, hall⟩ := List.exists_cons_of_ne_nil (l := front ++ name :: back) (by simp)
        rw [hall] at h
        exact h.hasDirectory
      · exact fun h => h.2

end Reaches

end Typeset.FileSystem
