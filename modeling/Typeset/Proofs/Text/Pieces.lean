import Typeset.Text.Utf8

/-!
# Decoding in pieces

What follows a sequence of bytes does not change what stands at its front, unless the sequence is
cut off there. So the text of a whole sequence is the text that its first part is fed to, with the
text of what that part withholds and of all the rest behind it.
-/

namespace Typeset.Text.Utf8

variable {bs rest : Bytes} {c : Char}

theorem continued_append_of_char {k : Nat} {lo hi : UInt8} {n : Nat}
    (h : continued k lo hi n bs = .char c rest) (cs : Bytes) :
    continued k lo hi n (bs ++ cs) = .char c (rest ++ cs) := by
  induction k generalizing lo hi n bs with
  | zero =>
    simp only [continued, Front.char.injEq] at h ⊢
    exact ⟨h.1, by rw [h.2]⟩
  | succ k ih =>
    cases bs with
    | nil => cases h
    | cons b bs =>
      simp only [continued, List.cons_append] at h ⊢
      split at h
      · rename_i hb
        rw [if_pos hb]
        exact ih h
      · cases h

theorem continued_append_of_malformed {k : Nat} {lo hi : UInt8} {n : Nat}
    (h : continued k lo hi n bs = .malformed rest) (cs : Bytes) :
    continued k lo hi n (bs ++ cs) = .malformed (rest ++ cs) := by
  induction k generalizing lo hi n bs with
  | zero => cases h
  | succ k ih =>
    cases bs with
    | nil => cases h
    | cons b bs =>
      simp only [continued, List.cons_append] at h ⊢
      split at h
      · rename_i hb
        rw [if_pos hb]
        exact ih h
      · rename_i hb
        cases h
        rw [if_neg hb, List.cons_append]

theorem front_append_of_char (h : front bs = .char c rest) (cs : Bytes) :
    front (bs ++ cs) = .char c (rest ++ cs) := by
  cases bs with
  | nil => cases h
  | cons b bs =>
    simp only [front, List.cons_append] at h ⊢
    split at h
    · rename_i hb
      cases h
      rw [if_pos hb]
    · rename_i hb
      rw [if_neg hb]
      cases hl : lead? b with
      | none => rw [hl] at h; cases h
      | some l =>
        rw [hl] at h
        exact continued_append_of_char h cs

theorem front_append_of_malformed (h : front bs = .malformed rest) (cs : Bytes) :
    front (bs ++ cs) = .malformed (rest ++ cs) := by
  cases bs with
  | nil => cases h
  | cons b bs =>
    simp only [front, List.cons_append] at h ⊢
    split at h
    · cases h
    · rename_i hb
      rw [if_neg hb]
      cases hl : lead? b with
      | none =>
        rw [hl] at h
        cases h
        rfl
      | some l =>
        rw [hl] at h
        exact continued_append_of_malformed h cs

theorem continued_ne_finished (k : Nat) (lo hi : UInt8) (n : Nat) (bs : Bytes) :
    continued k lo hi n bs ≠ .finished := by
  induction k generalizing lo hi n bs with
  | zero => rintro ⟨⟩
  | succ k ih =>
    cases bs with
    | nil => rintro ⟨⟩
    | cons b bs =>
      simp only [continued]
      split
      · exact ih _ _ _ _
      · rintro ⟨⟩

theorem front_eq_finished_iff : front bs = .finished ↔ bs = [] := by
  refine ⟨fun h => ?_, fun h => by rw [h, front]⟩
  cases bs with
  | nil => rfl
  | cons b bs =>
    simp only [front] at h
    split at h
    · cases h
    · cases hl : lead? b with
      | none => rw [hl] at h; cases h
      | some l =>
        rw [hl] at h
        exact absurd h (continued_ne_finished _ _ _ _ _)

theorem decode_of_char (h : front bs = .char c rest) : decode bs = c :: decode rest := by
  rw [decode]
  split <;> simp_all

theorem decode_of_malformed (h : front bs = .malformed rest) :
    decode bs = replacement :: decode rest := by
  rw [decode]
  split <;> simp_all

theorem decode_of_cut (h : front bs = .cut) : decode bs = [replacement] := by
  rw [decode]
  split <;> simp_all

/-- Nothing is lost or changed by what is withheld, whatever follows. -/
theorem decode_append (bs cs : Bytes) :
    decode (bs ++ cs) = (feed bs).1 ++ decode ((feed bs).2 ++ cs) := by
  fun_induction feed bs with
  | case1 bs h =>
    obtain rfl := front_eq_finished_iff.1 h
    rfl
  | case2 bs c rest h ih =>
    rw [decode_of_char (front_append_of_char h cs), ih, List.cons_append]
  | case3 => rfl
  | case4 bs rest h hs ih =>
    rw [decode_of_malformed (front_append_of_malformed h cs), ih, List.cons_append]
  | case5 => rfl

end Typeset.Text.Utf8
