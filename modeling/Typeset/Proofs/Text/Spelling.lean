import Typeset.Proofs.Text.Pieces

/-!
# The spelling of characters

A character stands at the front of a byte sequence if and only if its encoding does. So reading
undoes encoding, and a front that is cut off begins the encoding of some character.
-/

namespace Typeset.Text.Utf8

variable {b lo hi : UInt8} {k n : Nat} {c : Char} {bs rest : Bytes}

theorem toNat_ofNat_of_lt (h : n < 256) : (UInt8.ofNat n).toNat = n := by
  rw [UInt8.toNat_ofNat']
  omega

theorem toNat_val_ofNat (h : n.isValidChar) : (Char.ofNat n).val.toNat = n := by
  rw [Char.ofNat, dif_pos h]
  rfl

/-- The lead bytes, with what may follow each of them. -/
inductive IsLead : UInt8 → Nat × UInt8 × UInt8 × Nat → Prop
  | two {x : Nat} (h : 2 ≤ x) (h' : x < 32) : IsLead (UInt8.ofNat (x + 192)) (1, 0x80, 0xbf, x)
  | three {x : Nat} (h : x < 16) :
    IsLead (UInt8.ofNat (x + 224)) (2, if x = 0 then 0xa0 else 0x80, if x = 13 then 0x9f else 0xbf, x)
  | four {x : Nat} (h : x < 5) :
    IsLead (UInt8.ofNat (x + 240)) (3, if x = 0 then 0x90 else 0x80, if x = 4 then 0x8f else 0xbf, x)

theorem lead?_ofNat (h : n < 256) : lead? (UInt8.ofNat n) =
    if n < 194 then none
    else if n < 224 then some (1, 0x80, 0xbf, n - 192)
    else if n < 240 then
      some (2, if n = 224 then 0xa0 else 0x80, if n = 237 then 0x9f else 0xbf, n - 224)
    else if n < 245 then
      some (3, if n = 240 then 0x90 else 0x80, if n = 244 then 0x8f else 0xbf, n - 240)
    else none := by
  simp only [lead?, UInt8.lt_iff_toNat_lt, ← UInt8.toNat_inj, toNat_ofNat_of_lt h]
  rfl

theorem lead?_eq_some_iff {l : Nat × UInt8 × UInt8 × Nat} : lead? b = some l ↔ IsLead b l := by
  constructor
  · intro h
    obtain ⟨n, hn, rfl⟩ : ∃ n < 256, b = UInt8.ofNat n := ⟨b.toNat, b.toNat_lt, by simp⟩
    rw [lead?_ofNat hn] at h
    split at h
    · cases h
    split at h
    · obtain ⟨x, rfl⟩ : ∃ x, n = x + 192 := ⟨n - 192, by omega⟩
      cases h
      rw [Nat.add_sub_cancel]
      exact .two (by omega) (by omega)
    split at h
    · obtain ⟨x, rfl⟩ : ∃ x, n = x + 224 := ⟨n - 224, by omega⟩
      simp only [Nat.add_eq_right, Nat.reduceEqDiff, Nat.add_sub_cancel] at h
      cases h
      exact .three (by omega)
    split at h
    · obtain ⟨x, rfl⟩ : ∃ x, n = x + 240 := ⟨n - 240, by omega⟩
      simp only [Nat.add_eq_right, Nat.reduceEqDiff, Nat.add_sub_cancel] at h
      cases h
      exact .four (by omega)
    · cases h
  · rintro (⟨h, h'⟩ | h | h)
    · rw [lead?_ofNat (by omega), if_neg (by omega), if_pos (by omega), Nat.add_sub_cancel]
    · rw [lead?_ofNat (by omega), if_neg (by omega), if_neg (by omega), if_pos (by omega)]
      simp
    · rw [lead?_ofNat (by omega), if_neg (by omega), if_neg (by omega), if_neg (by omega),
        if_pos (by omega)]
      simp

namespace IsLead

theorem front_cons (h : IsLead b (k, lo, hi, n)) (rest : Bytes) :
    front (b :: rest) = continued k lo hi n rest := by
  have hb : ¬b < 0x80 := by
    intro hb
    have hlow : b < 0xc2 := by
      rw [UInt8.lt_iff_toNat_lt] at hb ⊢
      exact Nat.lt_trans hb (by decide)
    have hlead := lead?_eq_some_iff.2 h
    rw [lead?, if_pos hlow] at hlead
    cases hlead
  rw [front, if_neg hb, lead?_eq_some_iff.2 h]

/-- All bytes that continue a character carry six bits. -/
theorem bounds (h : IsLead b (k, lo, hi, n)) :
    128 ≤ lo.toNat ∧ lo.toNat ≤ hi.toNat ∧ hi.toNat ≤ 191 := by
  cases h with
  | two => decide
  | three | four =>
    refine ⟨?_, ?_, ?_⟩
    · split <;> decide
    · split <;> split <;> first | decide | omega
    · split <;> decide

end IsLead

/-- The bytes of a character, told by the groups of bits that they carry. No character is spelled with
more bytes than it needs, and surrogates are no characters. -/
inductive Spells : Char → Bytes → Prop
  | one {x : Nat} (hx : x < 128) : Spells (Char.ofNat x) [UInt8.ofNat x]
  | two {x y : Nat} (hx : 2 ≤ x) (hx' : x < 32) (hy : y < 64) :
    Spells (Char.ofNat (x * 64 + y)) [UInt8.ofNat (x + 192), UInt8.ofNat (y + 128)]
  | three {x y z : Nat} (hx : x < 16) (hy : y < 64) (hz : z < 64) (hlo : x = 0 → 32 ≤ y)
    (hhi : x = 13 → y < 32) :
    Spells (Char.ofNat ((x * 64 + y) * 64 + z))
      [UInt8.ofNat (x + 224), UInt8.ofNat (y + 128), UInt8.ofNat (z + 128)]
  | four {x y z w : Nat} (hx : x < 5) (hy : y < 64) (hz : z < 64) (hw : w < 64)
    (hlo : x = 0 → 16 ≤ y) (hhi : x = 4 → y < 16) :
    Spells (Char.ofNat (((x * 64 + y) * 64 + z) * 64 + w))
      [UInt8.ofNat (x + 240), UInt8.ofNat (y + 128), UInt8.ofNat (z + 128), UInt8.ofNat (w + 128)]

theorem Spells.eq_utf8EncodeChar (h : Spells c bs) : bs = String.utf8EncodeChar c := by
  cases h with
  | @one x hx =>
    have hv : x.isValidChar := .inl (by omega)
    simp only [String.utf8EncodeChar, toNat_val_ofNat hv]
    rw [if_pos (by omega)]
  | @two x y hx hx' hy =>
    have hv : (x * 64 + y).isValidChar := .inl (by omega)
    simp only [String.utf8EncodeChar, toNat_val_ofNat hv]
    rw [if_neg (by omega), if_pos (by omega)]
    congr 2
    · omega
    · congr 1
      omega
  | @three x y z hx hy hz hlo hhi =>
    have hv : ((x * 64 + y) * 64 + z).isValidChar := by
      unfold Nat.isValidChar
      omega
    simp only [String.utf8EncodeChar, toNat_val_ofNat hv]
    rw [if_neg (by omega), if_neg (by omega), if_pos (by omega)]
    congr 2
    · omega
    · congr 1
      omega
    · congr 2
      omega
  | @four x y z w hx hy hz hw hlo hhi =>
    have hv : (((x * 64 + y) * 64 + z) * 64 + w).isValidChar := by
      unfold Nat.isValidChar
      omega
    simp only [String.utf8EncodeChar, toNat_val_ofNat hv]
    rw [if_neg (by omega), if_neg (by omega), if_neg (by omega)]
    congr 2
    · omega
    · congr 1
      omega
    · congr 2
      · omega
      · congr 1
        omega

/-- Every character is spelled in one way, by its encoding. -/
theorem spells_iff : Spells c bs ↔ bs = String.utf8EncodeChar c := by
  refine ⟨Spells.eq_utf8EncodeChar, ?_⟩
  rintro rfl
  suffices h : ∃ bs, Spells c bs by
    obtain ⟨bs, h⟩ := h
    exact h.eq_utf8EncodeChar ▸ h
  have hv : c.val.toNat < 0xd800 ∨ 0xdfff < c.val.toNat ∧ c.val.toNat < 0x110000 := c.valid
  have hc : Char.ofNat c.val.toNat = c := Char.ofNat_toNat c
  generalize c.val.toNat = v at hv hc
  subst hc
  by_cases h1 : v < 0x80
  · exact ⟨_, .one h1⟩
  by_cases h2 : v < 0x800
  · have hsum : v / 64 * 64 + v % 64 = v := by omega
    rw [← hsum]
    exact ⟨_, .two (by omega) (by omega) (by omega)⟩
  by_cases h3 : v < 0x10000
  · have hsum : (v / 4096 * 64 + v / 64 % 64) * 64 + v % 64 = v := by omega
    rw [← hsum]
    exact ⟨_, .three (by omega) (by omega) (by omega) (by omega) (by omega)⟩
  · have hsum : ((v / 262144 * 64 + v / 4096 % 64) * 64 + v / 64 % 64) * 64 + v % 64 = v := by omega
    rw [← hsum]
    exact ⟨_, .four (by omega) (by omega) (by omega) (by omega) (by omega) (by omega)⟩

/-- A byte that continues a character adds six bits. -/
theorem continued_cons_eq_char_iff (hlo : 128 ≤ lo.toNat) (hhi : hi.toNat ≤ 191) :
    continued (k + 1) lo hi n bs = .char c rest ↔
      ∃ y bs', y < 64 ∧ lo.toNat ≤ y + 128 ∧ y + 128 ≤ hi.toNat ∧
        bs = UInt8.ofNat (y + 128) :: bs' ∧
        continued k 0x80 0xbf (n * 64 + y) bs' = .char c rest := by
  constructor
  · intro h
    cases bs with
    | nil => cases h
    | cons b bs =>
      rw [continued] at h
      split at h
      · rename_i hb
        rw [UInt8.le_iff_toNat_le, UInt8.le_iff_toNat_le] at hb
        have hsum : b.toNat - 128 + 128 = b.toNat := by omega
        refine ⟨b.toNat - 128, bs, by omega, by omega, by omega, ?_, h⟩
        rw [hsum, UInt8.ofNat_toNat]
      · cases h
  · rintro ⟨y, bs, hy, hl, hh, rfl, h⟩
    have hb : (UInt8.ofNat (y + 128)).toNat = y + 128 := toNat_ofNat_of_lt (by omega)
    have hin : lo ≤ UInt8.ofNat (y + 128) ∧ UInt8.ofNat (y + 128) ≤ hi := by
      rw [UInt8.le_iff_toNat_le, UInt8.le_iff_toNat_le, hb]
      exact ⟨hl, hh⟩
    rwa [continued, if_pos hin, hb, Nat.add_sub_cancel]

theorem continued_tail_eq_char_iff :
    continued (k + 1) 0x80 0xbf n bs = .char c rest ↔
      ∃ y bs', y < 64 ∧ bs = UInt8.ofNat (y + 128) :: bs' ∧
        continued k 0x80 0xbf (n * 64 + y) bs' = .char c rest := by
  rw [continued_cons_eq_char_iff (by decide) (by decide)]
  refine exists_congr fun y => exists_congr fun bs' => ⟨fun ⟨hy, _, _, h⟩ => ⟨hy, h⟩, ?_⟩
  rintro ⟨hy, h⟩
  exact ⟨hy, Nat.le_add_left 128 y, show y + 128 ≤ 191 by omega, h⟩

theorem continued_zero_eq_char_iff :
    continued 0 lo hi n bs = .char c rest ↔ c = Char.ofNat n ∧ bs = rest := by
  rw [continued, Front.char.injEq, eq_comm]

/-- Only after some lead bytes the second byte has bounds of its own. -/
theorem toNat_ite_le_iff {p : Prop} [Decidable p] {y : Nat} :
    (if p then lo else 0x80).toNat ≤ y + 128 ↔ (p → lo.toNat ≤ y + 128) := by
  split
  · exact ⟨fun h _ => h, fun h => h ‹p›⟩
  · exact ⟨fun _ hp => absurd hp ‹¬p›, fun _ => Nat.le_add_left 128 y⟩

theorem le_toNat_ite_iff {p : Prop} [Decidable p] {y : Nat} (hy : y < 64) :
    y + 128 ≤ (if p then hi else 0xbf).toNat ↔ (p → y + 128 ≤ hi.toNat) := by
  split
  · exact ⟨fun h _ => h, fun h => h ‹p›⟩
  · exact ⟨fun _ hp => absurd hp ‹¬p›, fun _ => Nat.add_le_add_right (Nat.le_of_lt_succ hy) 128⟩

theorem exists_spells_of_front (h : front bs = .char c rest) :
    ∃ used, Spells c used ∧ bs = used ++ rest := by
  cases bs with
  | nil => cases h
  | cons b bs =>
    by_cases hb : b < 0x80
    · rw [front, if_pos hb, Front.char.injEq] at h
      obtain ⟨rfl, rfl⟩ := h
      rw [UInt8.lt_iff_toNat_lt] at hb
      exact ⟨_, .one hb, by simp⟩
    · rw [front, if_neg hb] at h
      cases hl : lead? b with
      | none => simp [hl] at h
      | some l =>
        obtain ⟨k, lo, hi, n⟩ := l
        simp only [hl] at h
        have hlead := lead?_eq_some_iff.1 hl
        obtain ⟨hlo, -, hhi⟩ := hlead.bounds
        -- the bounds of the second byte say that the character needs all its bytes and is no surrogate
        cases hlead with
        | two hx hx' =>
          obtain ⟨y, bs₁, hy, rfl, h₁⟩ := continued_tail_eq_char_iff.1 h
          obtain ⟨rfl, rfl⟩ := continued_zero_eq_char_iff.1 h₁
          exact ⟨_, .two hx hx' hy, rfl⟩
        | three hx =>
          obtain ⟨y, bs₁, hy, hl, hh, rfl, h₁⟩ := (continued_cons_eq_char_iff hlo hhi).1 h
          obtain ⟨z, bs₂, hz, rfl, h₂⟩ := continued_tail_eq_char_iff.1 h₁
          obtain ⟨rfl, rfl⟩ := continued_zero_eq_char_iff.1 h₂
          have hlow : n = 0 → 32 ≤ y := fun h0 =>
            Nat.le_of_add_le_add_right (b := 128) (toNat_ite_le_iff.1 hl h0)
          have hhigh : n = 13 → y ≤ 31 := fun h0 =>
            Nat.le_of_add_le_add_right (b := 128) ((le_toNat_ite_iff hy).1 hh h0)
          exact ⟨_, .three hx hy hz hlow fun h0 => Nat.lt_succ_of_le (hhigh h0), rfl⟩
        | four hx =>
          obtain ⟨y, bs₁, hy, hl, hh, rfl, h₁⟩ := (continued_cons_eq_char_iff hlo hhi).1 h
          obtain ⟨z, bs₂, hz, rfl, h₂⟩ := continued_tail_eq_char_iff.1 h₁
          obtain ⟨w, bs₃, hw, rfl, h₃⟩ := continued_tail_eq_char_iff.1 h₂
          obtain ⟨rfl, rfl⟩ := continued_zero_eq_char_iff.1 h₃
          have hlow : n = 0 → 16 ≤ y := fun h0 =>
            Nat.le_of_add_le_add_right (b := 128) (toNat_ite_le_iff.1 hl h0)
          have hhigh : n = 4 → y ≤ 15 := fun h0 =>
            Nat.le_of_add_le_add_right (b := 128) ((le_toNat_ite_iff hy).1 hh h0)
          exact ⟨_, .four hx hy hz hw hlow fun h0 => Nat.lt_succ_of_le (hhigh h0), rfl⟩

theorem Spells.front_append (h : Spells c bs) (rest : Bytes) :
    front (bs ++ rest) = .char c rest := by
  cases h with
  | @one x hx =>
    have hb : (UInt8.ofNat x).toNat = x := toNat_ofNat_of_lt (by omega)
    have hlt : UInt8.ofNat x < 0x80 := by
      rw [UInt8.lt_iff_toNat_lt, hb]
      exact hx
    rw [List.singleton_append, front, if_pos hlt, hb]
  | two hx hx' hy =>
    rw [List.cons_append, (IsLead.two hx hx').front_cons]
    exact continued_tail_eq_char_iff.2 ⟨_, _, hy, rfl, continued_zero_eq_char_iff.2 ⟨rfl, rfl⟩⟩
  | @three x y z hx hy hz hlo hhi =>
    obtain ⟨hlo', -, hhi'⟩ := (IsLead.three hx).bounds
    rw [List.cons_append, (IsLead.three hx).front_cons]
    refine (continued_cons_eq_char_iff hlo' hhi').2 ⟨_, _, hy, ?_, ?_, rfl,
      continued_tail_eq_char_iff.2 ⟨_, _, hz, rfl, continued_zero_eq_char_iff.2 ⟨rfl, rfl⟩⟩⟩
    · exact toNat_ite_le_iff.2 fun h0 => Nat.add_le_add_right (hlo h0) 128
    · exact (le_toNat_ite_iff hy).2 fun h0 =>
        Nat.add_le_add_right (Nat.le_of_lt_succ (hhi h0)) 128
  | @four x y z w hx hy hz hw hlo hhi =>
    obtain ⟨hlo', -, hhi'⟩ := (IsLead.four hx).bounds
    rw [List.cons_append, (IsLead.four hx).front_cons]
    refine (continued_cons_eq_char_iff hlo' hhi').2 ⟨_, _, hy, ?_, ?_, rfl,
      continued_tail_eq_char_iff.2 ⟨_, _, hz, rfl, continued_tail_eq_char_iff.2
        ⟨_, _, hw, rfl, continued_zero_eq_char_iff.2 ⟨rfl, rfl⟩⟩⟩⟩
    · exact toNat_ite_le_iff.2 fun h0 => Nat.add_le_add_right (hlo h0) 128
    · exact (le_toNat_ite_iff hy).2 fun h0 =>
        Nat.add_le_add_right (Nat.le_of_lt_succ (hhi h0)) 128

/-- What stands at the front is a character if and only if the encoding of this character does. -/
theorem front_eq_char_iff : front bs = .char c rest ↔ bs = String.utf8EncodeChar c ++ rest := by
  constructor
  · intro h
    obtain ⟨used, hused, rfl⟩ := exists_spells_of_front h
    rw [hused.eq_utf8EncodeChar]
  · rintro rfl
    exact (spells_iff.2 rfl).front_append rest

theorem exists_continued_replicate (k n : Nat) :
    ∃ c, continued k 0x80 0xbf n (List.replicate k 0x80) = .char c [] := by
  induction k generalizing n with
  | zero => exact ⟨_, rfl⟩
  | succ k ih =>
    obtain ⟨c, hc⟩ := ih (n * 64)
    exact ⟨c, continued_tail_eq_char_iff.2 ⟨0, _, by decide, rfl, hc⟩⟩

/-- What is cut off among the bytes that continue a character can be completed. -/
theorem exists_of_continued_eq_cut (hle : lo ≤ hi) (h : continued k lo hi n bs = .cut) :
    ∃ ending c, ending ≠ [] ∧ continued k lo hi n (bs ++ ending) = .char c [] := by
  induction k generalizing lo hi n bs with
  | zero => cases h
  | succ k ih =>
    cases bs with
    | nil =>
      obtain ⟨c, hc⟩ := exists_continued_replicate k (n * 64 + (lo.toNat - 0x80))
      refine ⟨lo :: List.replicate k 0x80, c, List.cons_ne_nil _ _, ?_⟩
      rw [List.nil_append, continued, if_pos ⟨UInt8.le_refl lo, hle⟩]
      exact hc
    | cons b bs =>
      rw [continued] at h
      split at h
      · rename_i hb
        obtain ⟨ending, c, hne, hc⟩ := ih (by decide) h
        refine ⟨ending, c, hne, ?_⟩
        rw [List.cons_append, continued, if_pos hb]
        exact hc
      · cases h

/-- A front that is cut off is the proper beginning of the encoding of a character. -/
theorem exists_of_front_eq_cut (h : front bs = .cut) :
    ∃ c ending, ending ≠ [] ∧ String.utf8EncodeChar c = bs ++ ending := by
  cases bs with
  | nil => cases h
  | cons b bs =>
    rw [front] at h
    split at h
    · cases h
    · cases hl : lead? b with
      | none => simp [hl] at h
      | some l =>
        obtain ⟨k, lo, hi, n⟩ := l
        simp only [hl] at h
        have hlead := lead?_eq_some_iff.1 hl
        have hle : lo ≤ hi := UInt8.le_iff_toNat_le.2 hlead.bounds.2.1
        obtain ⟨ending, c, hne, hc⟩ := exists_of_continued_eq_cut hle h
        refine ⟨c, ending, hne, ?_⟩
        rw [← hlead.front_cons, front_eq_char_iff, List.append_nil] at hc
        exact hc.symm

end Typeset.Text.Utf8
