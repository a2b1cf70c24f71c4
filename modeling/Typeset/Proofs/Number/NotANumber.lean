import Typeset.Number
import Typeset.Number.TimeLimit

/-!
# What is not a number

Rounding never makes up a value that is not a number. So a text reads as one only if it says so: as the
word `nan` in capital or small letters, with or without a sign. Nobody can wait that long.
-/

namespace Typeset

namespace Binary64

theorem bounded_ne_nan (negative : Bool) (m : Nat) (e : Int) : bounded negative m e ≠ .nan := by
  rw [bounded]
  split <;> simp

theorem ofRatio_ne_nan (negative : Bool) (num den : Nat) : ofRatio negative num den ≠ .nan := by
  rw [ofRatio]
  split
  · simp
  · -- both for the exponent that was guessed and for the one below
    dsimp only
    split <;> split <;> apply bounded_ne_nan

theorem ofDecimal_ne_nan (negative : Bool) (digits : Nat) (e : Int) :
    ofDecimal negative digits e ≠ .nan := by
  rw [ofDecimal]
  split
  · simp
  · split
    · simp
    · split
      · simp
      · exact ofRatio_ne_nan _ _ _

theorem ofInt?_ne_nan (n : Int) : ofInt? n ≠ some .nan := by
  rw [ofInt?]
  split
  · simp
  · rename_i x _
    intro h
    exact ofRatio_ne_nan _ _ _ (Option.some.inj h)

theorem milliseconds_eq_notANumber_iff {x : Binary64} :
    x.milliseconds = .error .notANumber ↔ x = .nan := by
  constructor
  · intro h
    cases x with
    | nan => rfl
    | infinite negative => cases negative <;> cases h
    | finite negative m e =>
      simp only [milliseconds] at h
      split at h
      · cases h
      · split at h <;> cases h
  · rintro rfl
    exact milliseconds_nan

end Binary64

namespace Numeral

open Text

/-- A text is the word for what is not a number, with or without a sign and blanks around it. -/
def SaysNan (s : List Char) : Prop := (takeSign (trimmed s)).2.map asciiLower = ['n', 'a', 'n']

instance (s : List Char) : Decidable (SaysNan s) := inferInstanceAs (Decidable (_ = _))

variable {s w : List Char}

theorem mem_takeSign {c : Char} (h : c ∈ s) : c ∈ (takeSign s).2 ∨ c = '-' ∨ c = '+' := by
  unfold takeSign
  split
  · rcases List.mem_cons.1 h with rfl | h
    · exact .inr (.inl rfl)
    · exact .inl h
  · rcases List.mem_cons.1 h with rfl | h
    · exact .inr (.inr rfl)
    · exact .inl h
  · exact .inl h

theorem asciiLower_of_isDigit {c : Char} (h : isDigit c = true) : asciiLower c = c := by
  have hc : ¬('A' ≤ c ∧ c ≤ 'Z') := by
    rintro ⟨hA, -⟩
    have h9 := ((isDigit_iff c).1 h).2
    exact absurd (Char.le_trans hA h9) (by decide)
  rw [asciiLower, if_neg hc]

/-- No digit and no underscore is left in the word, or in front of it. -/
theorem isDigit_of_word (h : (takeSign w).2.map asciiLower = ['n', 'a', 'n']) {c : Char} (hc : c ∈ w) :
    isDigit c = false ∧ c ≠ '_' := by
  rcases mem_takeSign hc with hword | rfl | rfl
  · have hlower : asciiLower c ∈ ['n', 'a', 'n'] := h ▸ List.mem_map_of_mem hword
    constructor
    · cases hdigit : isDigit c with
      | false => rfl
      | true =>
        rw [asciiLower_of_isDigit hdigit] at hlower
        have hno : (['n', 'a', 'n'].all fun d => !isDigit d) = true := by decide
        have hc := List.all_eq_true.1 hno c hlower
        rw [hdigit] at hc
        cases hc
    · rintro rfl
      exact absurd hlower (by decide)
  · decide
  · decide

theorem go_of_forall {before : Char} (hb : before ≠ '_') (h : ∀ c ∈ s, c ≠ '_') :
    dropUnderscores?.go before s = some s := by
  induction s generalizing before with
  | nil => rw [dropUnderscores?.go, if_neg hb]
  | cons c s ih =>
    have hc : c ≠ '_' := h c List.mem_cons_self
    rw [dropUnderscores?.go, if_neg (fun hbc => hb hbc.1),
      ih hc fun d hd => h d (List.mem_cons_of_mem _ hd)]
    · rfl
    · exact fun hc' => hc hc'

/-- Without digits there is no place for an underscore. -/
theorem eq_of_go {before : Char} (hb : isDigit before = false) (h : ∀ c ∈ w, isDigit c = false)
    (hgo : dropUnderscores?.go before s = some w) : s = w := by
  induction s generalizing before w with
  | nil =>
    rw [dropUnderscores?.go] at hgo
    split at hgo
    · cases hgo
    · cases hgo
      rfl
  | cons c s ih =>
    by_cases hc : c = '_'
    · subst hc
      simp [dropUnderscores?.go, hb] at hgo
    · rw [dropUnderscores?.go] at hgo
      · split at hgo
        · cases hgo
        · obtain ⟨w, hw, rfl⟩ := Option.map_eq_some_iff.1 hgo
          have hdigit : isDigit c = false := h c List.mem_cons_self
          rw [ih hdigit (fun d hd => h d (List.mem_cons_of_mem _ hd)) hw]
      · exact fun hc' => hc hc'

theorem magnitude?_ne_nan (negative : Bool) (s : List Char) : magnitude? negative s ≠ some .nan := by
  have hmap : ∀ (o : Option Int) (n : Nat) (k : Int),
      (o.map fun e => Binary64.ofDecimal negative n (e - k)) ≠ some .nan := by
    intro o n k h
    obtain ⟨e, -, h⟩ := Option.map_eq_some_iff.1 h
    exact Binary64.ofDecimal_ne_nan _ _ _ h
  unfold magnitude?
  dsimp only
  -- with and without a point
  split
  · split
    · simp
    · exact hmap _ _ _
  · split
    · simp
    · exact hmap _ _ _

theorem plain?_eq_nan_iff :
    plain? w = some .nan ↔ (takeSign w).2.map asciiLower = ['n', 'a', 'n'] := by
  have hword : ∀ s : List Char, String.ofList s = "nan" ↔ s = ['n', 'a', 'n'] := by
    intro s
    rw [show "nan" = String.ofList ['n', 'a', 'n'] from rfl, String.ofList_inj]
  rw [plain?]
  dsimp only
  split
  · rename_i hinf
    refine iff_of_false (by simp) fun hnan => ?_
    rw [hnan] at hinf
    exact absurd hinf (by decide)
  · split
    · rename_i hnan
      exact iff_of_true rfl ((hword _).1 hnan)
    · rename_i hnan
      exact iff_of_false (magnitude?_ne_nan _ _) fun h => hnan ((hword _).2 h)

theorem read?_eq_nan_iff : read? s = some .nan ↔ SaysNan s := by
  rw [read?, Option.bind_eq_some_iff]
  constructor
  · rintro ⟨w, hdrop, hplain⟩
    have hw := plain?_eq_nan_iff.1 hplain
    have hs : trimmed s = w :=
      eq_of_go (by decide) (fun c hc => (isDigit_of_word hw hc).1) hdrop
    rwa [SaysNan, hs]
  · intro h
    exact ⟨trimmed s, go_of_forall (by decide) fun c hc => (isDigit_of_word h hc).2,
      plain?_eq_nan_iff.2 h⟩

end Numeral
end Typeset
