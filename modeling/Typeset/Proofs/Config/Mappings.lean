import Typeset.Config.Settings

/-!
# Keys of mappings

What a mapping gives for a text depends on its pairs alone, in whatever order they stand, as long as no
key comes twice. The keys that a section may not give are told as the one list of their texts that is in
order and repeats nothing.
-/

namespace Typeset.Config

namespace Value

theorem sameKey_text_iff {v : Value} {s : String} : v.sameKey (.text s) = true ↔ v = .text s := by
  constructor
  · intro h
    cases v with
    | text t => rw [sameKey_text, beq_iff_eq] at h; rw [h]
    | _ => simp [sameKey, number?] at h
  · rintro rfl
    simp

end Value

namespace Mapping

variable {m n : Mapping} {key : String} {v : Value}

/-- No key comes twice. -/
def Distinct (m : Mapping) : Prop := m.Pairwise fun p q => p.1.sameKey q.1 = false

theorem mem_of_lookup (h : m.lookup key = some v) : (Value.text key, v) ∈ m := by
  obtain ⟨⟨k, w⟩, hfind, rfl⟩ := Option.map_eq_some_iff.1 h
  have hsame : k.sameKey (.text key) = true := by simpa using List.find?_some hfind
  have hk : k = .text key := Value.sameKey_text_iff.1 hsame
  subst hk
  exact List.mem_of_find?_eq_some hfind

theorem lookup_eq_none_iff : m.lookup key = none ↔ ∀ v, (Value.text key, v) ∉ m := by
  rw [lookup, get?, Option.map_eq_none_iff, List.find?_eq_none]
  constructor
  · intro h v hv
    exact h _ hv (Value.sameKey_text_iff.2 rfl)
  · rintro h ⟨k, v⟩ hv hk
    have hk : k = .text key := Value.sameKey_text_iff.1 hk
    exact h v (hk ▸ hv)

theorem Distinct.eq_of_mem (h : m.Distinct) {w : Value} (hv : (Value.text key, v) ∈ m)
    (hw : (Value.text key, w) ∈ m) : v = w := by
  induction m with
  | nil => cases hv
  | cons p m ih =>
    obtain ⟨hp, hm⟩ := List.pairwise_cons.1 h
    have hne : ∀ u, (Value.text key, u) ∈ m → p.1 ≠ .text key := by
      intro u hu hkey
      have hdiff := hp _ hu
      rw [hkey, Value.sameKey_text, beq_self_eq_true] at hdiff
      cases hdiff
    rcases List.mem_cons.1 hv with rfl | hv'
    · rcases List.mem_cons.1 hw with hw | hw
      · exact (congrArg Prod.snd hw).symm
      · exact absurd rfl (hne w hw)
    · rcases List.mem_cons.1 hw with rfl | hw
      · exact absurd rfl (hne v hv')
      · exact ih hm hv' hw

theorem Distinct.lookup_eq (h : m.Distinct) (hmn : ∀ p, p ∈ m ↔ p ∈ n) (key : String) :
    m.lookup key = n.lookup key := by
  cases hn : n.lookup key with
  | none =>
    rw [lookup_eq_none_iff] at hn ⊢
    intro v hv
    exact hn v ((hmn _).1 hv)
  | some v =>
    have hv : (Value.text key, v) ∈ m := (hmn _).2 (mem_of_lookup hn)
    cases hm : m.lookup key with
    | none => exact absurd hv (lookup_eq_none_iff.1 hm v)
    | some w => rw [h.eq_of_mem (mem_of_lookup hm) hv]

theorem mem_insert {key value : Value} {p : Value × Value} (h : p ∈ m.insert key value) :
    p.1 = key ∨ ∃ q ∈ m, p.1 = q.1 := by
  induction m with
  | nil =>
    rw [insert, List.mem_singleton] at h
    exact .inl (congrArg Prod.fst h)
  | cons q m ih =>
    rw [insert] at h
    split at h
    · rcases List.mem_cons.1 h with rfl | h
      · exact .inr ⟨q, List.mem_cons_self, rfl⟩
      · exact .inr ⟨p, List.mem_cons_of_mem _ h, rfl⟩
    · rcases List.mem_cons.1 h with rfl | h
      · exact .inr ⟨_, List.mem_cons_self, rfl⟩
      · rcases ih h with hp | ⟨r, hr, hp⟩
        · exact .inl hp
        · exact .inr ⟨r, List.mem_cons_of_mem _ hr, hp⟩

theorem Distinct.insert (h : m.Distinct) (key value : Value) : (m.insert key value).Distinct := by
  induction m with
  | nil => exact List.pairwise_singleton _ _
  | cons q m ih =>
    obtain ⟨hq, hm⟩ := List.pairwise_cons.1 h
    rw [Mapping.insert]
    split
    · exact List.pairwise_cons.2 ⟨hq, hm⟩
    · rename_i hkey
      refine List.pairwise_cons.2 ⟨?_, ih hm⟩
      intro p hp
      rcases mem_insert hp with hp | ⟨r, hr, hp⟩
      · rw [hp]
        exact Bool.eq_false_iff.2 hkey
      · rw [hp]
        exact hq r hr

/-- Whatever pairs a mapping is built from, no key comes twice in it. -/
theorem distinct_ofPairs (ps : List (Value × Value)) : (ofPairs ps).Distinct := by
  have hfold : ∀ m : Mapping, m.Distinct →
      Distinct (ps.foldl (fun m p => Mapping.insert m p.1 p.2) m) := by
    induction ps with
    | nil => exact fun _ h => h
    | cons p ps ih => exact fun m h => ih _ (h.insert p.1 p.2)
  exact hfold [] List.Pairwise.nil

end Mapping

/-! ## The texts of unknown keys -/

theorem mem_insertSorted {s t : String} {l : List String} :
    t ∈ insertSorted s l ↔ t = s ∨ t ∈ l := by
  induction l with
  | nil => rw [insertSorted, List.mem_singleton, or_iff_left List.not_mem_nil]
  | cons u l ih =>
    rw [insertSorted]
    split
    · rename_i hsu
      subst hsu
      rw [List.mem_cons]
      exact or_self_left.symm
    · split
      · rw [List.mem_cons]
      · rw [List.mem_cons, ih, List.mem_cons]
        exact or_left_comm

theorem pairwise_insertSorted {s : String} {l : List String} (h : l.Pairwise (· < ·)) :
    (insertSorted s l).Pairwise (· < ·) := by
  induction l with
  | nil => exact List.pairwise_singleton _ _
  | cons u l ih =>
    obtain ⟨hu, hl⟩ := List.pairwise_cons.1 h
    rw [insertSorted]
    split
    · exact h
    · rename_i hne
      split
      · rename_i hlt
        refine List.pairwise_cons.2 ⟨?_, h⟩
        intro t ht
        rcases List.mem_cons.1 ht with rfl | ht
        · exact hlt
        · exact String.lt_trans hlt (hu t ht)
      · rename_i hge
        refine List.pairwise_cons.2 ⟨?_, ih hl⟩
        intro t ht
        rcases mem_insertSorted.1 ht with rfl | ht
        · exact Std.lt_of_le_of_ne (String.not_lt.1 hge) (Ne.symm hne)
        · exact hu t ht

/-- Lists in order that repeat nothing are told apart by what they hold. -/
theorem eq_of_pairwise_lt {k l : List String} (hk : k.Pairwise (· < ·)) (hl : l.Pairwise (· < ·))
    (h : ∀ s, s ∈ k ↔ s ∈ l) : k = l := by
  have hne : ∀ {a b : String}, a < b → a ≠ b := by
    rintro a b hab rfl
    exact String.lt_irrefl a hab
  have hperm : k.Perm l :=
    (List.perm_ext_iff_of_nodup (hk.imp hne) (hl.imp hne)).2 h
  exact hperm.eq_of_pairwise (fun a b _ _ hab hba => absurd hba (String.lt_asymm hab)) hk hl

def unknownTexts (m : Mapping) : List String :=
  ((m.map (·.1.toText)).filter (· ∉ knownKeys)).foldr insertSorted []

theorem mem_unknownTexts {m : Mapping} {s : String} :
    s ∈ unknownTexts m ↔ (∃ p ∈ m, p.1.toText = s) ∧ s ∉ knownKeys := by
  have hfold : ∀ l : List String, s ∈ l.foldr insertSorted [] ↔ s ∈ l := by
    intro l
    induction l with
    | nil => rfl
    | cons t l ih => rw [List.foldr_cons, mem_insertSorted, ih, List.mem_cons]
  rw [unknownTexts, hfold, List.mem_filter, List.mem_map, decide_eq_true_iff]

theorem pairwise_unknownTexts (m : Mapping) : (unknownTexts m).Pairwise (· < ·) := by
  rw [unknownTexts]
  generalize (m.map (·.1.toText)).filter (· ∉ knownKeys) = l
  induction l with
  | nil => exact List.Pairwise.nil
  | cons s l ih => exact pairwise_insertSorted ih

theorem unknownTexts_congr {m n : Mapping} (h : ∀ p, p ∈ m ↔ p ∈ n) :
    unknownTexts m = unknownTexts n := by
  refine eq_of_pairwise_lt (pairwise_unknownTexts m) (pairwise_unknownTexts n) ?_
  intro s
  simp only [mem_unknownTexts, h]

theorem unknownTexts_eq_nil_iff {m : Mapping} :
    unknownTexts m = [] ↔ ∀ p ∈ m, p.1.toText ∈ knownKeys := by
  rw [List.eq_nil_iff_forall_not_mem]
  constructor
  · intro h p hp
    by_cases hknown : p.1.toText ∈ knownKeys
    · exact hknown
    · exact absurd (mem_unknownTexts.2 ⟨⟨p, hp, rfl⟩, hknown⟩) (h _)
  · intro h s hs
    obtain ⟨⟨p, hp, rfl⟩, hunknown⟩ := mem_unknownTexts.1 hs
    exact hunknown (h p hp)

end Typeset.Config
