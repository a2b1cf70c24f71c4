import Typeset.Proofs.Text.Spelling

/-!
# What is withheld

Of the bytes that have arrived, an end is withheld if more bytes may complete it to a character, and no
other end but one: the two bytes that begin a surrogate. All that stands before is handed over, as the
text that it is by itself. None of this depends on the pieces in which the bytes arrived.
-/

namespace Typeset.Text.Utf8

variable {lo hi : UInt8} {k n : Nat} {bs rest : Bytes}

/-- Bytes that wait for others: the proper beginning of the encoding of a character, or the first two
bytes of a surrogate. -/
def Waits (bs : Bytes) : Prop :=
  (∃ c ending, ending ≠ [] ∧ String.utf8EncodeChar c = bs ++ ending) ∨ beginsSurrogate bs = true

theorem waits_nil : Waits [] :=
  .inl ⟨'a', String.utf8EncodeChar 'a', by decide, rfl⟩

theorem beginsSurrogate_iff :
    beginsSurrogate bs = true ↔ ∃ b, bs = [0xed, b] ∧ 0xa0 ≤ b ∧ b ≤ 0xbf := by
  unfold beginsSurrogate
  split
  · simp [and_assoc]
  · rename_i hne
    constructor
    · rintro ⟨⟩
    · rintro ⟨b, rfl, -⟩
      exact absurd rfl (hne _ _)

/-- The beginning of a surrogate is malformed whatever follows. -/
theorem front_of_beginsSurrogate (h : beginsSurrogate bs = true) :
    ∃ rest, front bs = .malformed rest := by
  obtain ⟨b, rfl, hlo, -⟩ := beginsSurrogate_iff.1 h
  have hlead : IsLead 0xed (2, 0x80, 0x9f, 13) := lead?_eq_some_iff.1 (by decide)
  have hb : ¬((0x80 : UInt8) ≤ b ∧ b ≤ 0x9f) := by
    rintro ⟨-, hhi⟩
    exact absurd (UInt8.le_trans hlo hhi) (by decide)
  exact ⟨[b], by rw [hlead.front_cons, continued, if_neg hb]⟩

/-- No text has such a beginning. -/
theorem not_prefix_encode (h : beginsSurrogate bs = true) (s : List Char) : ¬bs <+: encode s := by
  rintro ⟨rest, hs⟩
  obtain ⟨rest', hfront⟩ := front_of_beginsSurrogate h
  have hmalformed := front_append_of_malformed hfront rest
  rw [hs] at hmalformed
  cases s with
  | nil => cases hmalformed
  | cons c s =>
    have hchar : front (encode (c :: s)) = .char c (encode s) := front_eq_char_iff.2 rfl
    rw [hchar] at hmalformed
    cases hmalformed

theorem Waits.length_le (h : Waits bs) : bs.length ≤ 3 := by
  rcases h with ⟨c, ending, hne, hc⟩ | h
  · have hlength := congrArg List.length hc
    rw [String.length_utf8EncodeChar, List.length_append] at hlength
    have hsize := c.utf8Size_le_four
    have hpos := List.length_pos_iff.2 hne
    omega
  · obtain ⟨b, rfl, -⟩ := beginsSurrogate_iff.1 h
    exact Nat.le_succ 2

theorem waits_feed (bs : Bytes) : Waits (feed bs).2 := by
  fun_induction feed bs with
  | case1 => exact waits_nil
  | case2 bs c rest h ih => exact ih
  | case3 bs rest h hs => exact .inr hs
  | case4 bs rest h hs ih => exact ih
  | case5 bs h => exact .inl (exists_of_front_eq_cut h)

/-- What continues no character is told by its first byte. If that has not arrived yet, the beginning is
cut off. -/
theorem exists_of_continued_eq_malformed (h : continued k lo hi n bs = .malformed rest) :
    ∃ used b rest', bs = used ++ b :: rest' ∧ rest = b :: rest' ∧
      continued k lo hi n used = .cut ∧
      ∀ cs, continued k lo hi n (used ++ b :: cs) = .malformed (b :: cs) := by
  induction k generalizing lo hi n bs with
  | zero => cases h
  | succ k ih =>
    cases bs with
    | nil => cases h
    | cons b bs =>
      rw [continued] at h
      split at h
      · rename_i hb
        obtain ⟨used, x, rest', rfl, rfl, hcut, hall⟩ := ih h
        refine ⟨b :: used, x, rest', rfl, rfl, ?_, fun cs => ?_⟩
        · rwa [continued, if_pos hb]
        · rw [List.cons_append, continued, if_pos hb]
          exact hall cs
      · rename_i hb
        cases h
        refine ⟨[], b, bs, rfl, rfl, rfl, fun cs => ?_⟩
        rw [List.nil_append, continued, if_neg hb]

/-- A malformed part is replaced by itself as it is with what follows it, or with a beginning of that. -/
theorem exists_of_front_eq_malformed (h : front bs = .malformed rest) :
    ∃ used, bs = used ++ rest ∧
      ∀ cs, cs <+: rest → decode (used ++ cs) = replacement :: decode cs := by
  cases bs with
  | nil => cases h
  | cons b bs =>
    rw [front] at h
    split at h
    · cases h
    · rename_i hb
      cases hl : lead? b with
      | none =>
        simp only [hl] at h
        cases h
        refine ⟨[b], rfl, fun cs _ => decode_of_malformed ?_⟩
        simp [front, hb, hl]
      | some l =>
        obtain ⟨k, lo, hi, n⟩ := l
        simp only [hl] at h
        have hlead := lead?_eq_some_iff.1 hl
        obtain ⟨used, x, rest', rfl, rfl, hcut, hall⟩ := exists_of_continued_eq_malformed h
        refine ⟨b :: used, rfl, fun cs hcs => ?_⟩
        cases cs with
        | nil =>
          have hfront : front (b :: used) = .cut := (hlead.front_cons used).trans hcut
          rw [List.append_nil, decode_of_cut hfront, decode_nil]
        | cons y cs =>
          obtain ⟨rfl, -⟩ := List.cons_prefix_cons.1 hcs
          exact decode_of_malformed ((hlead.front_cons _).trans (hall cs))

/-- The text that is handed over is that of all bytes but the withheld ones, taken by themselves. -/
theorem exists_decode_eq_feed (bs : Bytes) :
    ∃ sent, bs = sent ++ (feed bs).2 ∧ (feed bs).1 = decode sent := by
  fun_induction feed bs with
  | case1 bs h => exact ⟨[], front_eq_finished_iff.1 h, decode_nil.symm⟩
  | case2 bs c rest h ih =>
    obtain ⟨sent, hsent, htext⟩ := ih
    have hbs := front_eq_char_iff.1 h
    refine ⟨String.utf8EncodeChar c ++ sent, ?_, ?_⟩
    · rw [List.append_assoc, ← hsent]
      exact hbs
    · rw [decode_of_char (front_eq_char_iff.2 rfl), htext]
  | case3 => exact ⟨[], rfl, decode_nil.symm⟩
  | case4 bs rest h hs ih =>
    obtain ⟨sent, hsent, htext⟩ := ih
    obtain ⟨used, hbs, hdecode⟩ := exists_of_front_eq_malformed h
    refine ⟨used ++ sent, ?_, ?_⟩
    · rw [List.append_assoc, ← hsent]
      exact hbs
    · rw [hdecode sent ⟨_, hsent.symm⟩, htext]
  | case5 => exact ⟨[], rfl, decode_nil.symm⟩

theorem eq_nil_of_decode_eq_nil (h : decode bs = []) : bs = [] := by
  cases hf : front bs with
  | finished => exact front_eq_finished_iff.1 hf
  | char c rest => simp [decode_of_char hf] at h
  | malformed rest => simp [decode_of_malformed hf] at h
  | cut => simp [decode_of_cut hf] at h

theorem feed_of_char {c : Char} (h : front bs = .char c rest) :
    feed bs = (c :: (feed rest).1, (feed rest).2) := by
  rw [feed]
  split <;> simp_all

theorem feed_of_malformed (h : front bs = .malformed rest) (hs : beginsSurrogate bs = false) :
    feed bs = (replacement :: (feed rest).1, (feed rest).2) := by
  rw [feed]
  split <;> simp_all

theorem feed_of_beginsSurrogate (h : beginsSurrogate bs = true) : feed bs = ([], bs) := by
  obtain ⟨rest, hfront⟩ := front_of_beginsSurrogate h
  rw [feed]
  split <;> simp_all

/-- Nothing that is malformed becomes the beginning of a surrogate with more bytes behind it. -/
theorem beginsSurrogate_append (h : front bs = .malformed rest) (hs : beginsSurrogate bs = false)
    (cs : Bytes) : beginsSurrogate (bs ++ cs) = false := by
  rw [← Bool.not_eq_true]
  intro hbegins
  obtain ⟨b, hb, hlo, hhi⟩ := beginsSurrogate_iff.1 hbegins
  rcases bs with _ | ⟨x, _ | ⟨y, bs⟩⟩
  · cases h
  · obtain ⟨rfl, -⟩ := List.cons.inj hb
    have hcut : front [0xed] = .cut := by decide
    rw [hcut] at h
    cases h
  · have hnil : bs ++ cs = [] := (List.cons.inj (List.cons.inj hb).2).2
    obtain ⟨rfl, rfl⟩ := List.append_eq_nil_iff.1 hnil
    rw [List.append_nil, hs] at hbegins
    cases hbegins

/-- Bytes that arrive in two pieces lead where they lead in one. -/
theorem feed_append (bs cs : Bytes) :
    feed (bs ++ cs) = ((feed bs).1 ++ (feed ((feed bs).2 ++ cs)).1, (feed ((feed bs).2 ++ cs)).2) := by
  fun_induction feed bs with
  | case1 bs h =>
    obtain rfl := front_eq_finished_iff.1 h
    rfl
  | case2 bs c rest h ih =>
    rw [feed_of_char (front_append_of_char h cs), ih]
    rfl
  | case3 => rfl
  | case4 bs rest h hs ih =>
    have hs' := beginsSurrogate_append h (by simpa using hs) cs
    rw [feed_of_malformed (front_append_of_malformed h cs) hs', ih]
    rfl
  | case5 => rfl

end Typeset.Text.Utf8
