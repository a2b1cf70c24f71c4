import Mathlib.Data.List.Induction
import Typeset.Number
import Typeset.Text.Blank
import Typeset.Text.Literal

/-!
# Texts without line ends

What the program writes by itself stays on its line: digits, numbers, and quoted literals, which escape
every line end. Line ends at the end of a text can be dropped, and that leaves no blank text of one that
was not blank.
-/

namespace Typeset.Text

/-- A text does not go on to another line. -/
def Unbroken (s : String) : Prop := '\n' ∉ s.toList

instance (s : String) : Decidable (Unbroken s) := inferInstanceAs (Decidable ('\n' ∉ s.toList))

theorem unbroken_append {s t : String} : Unbroken (s ++ t) ↔ Unbroken s ∧ Unbroken t := by
  simp [Unbroken, not_or]

theorem unbroken_ofList {cs : List Char} : Unbroken (String.ofList cs) ↔ '\n' ∉ cs := by
  rw [Unbroken, String.toList_ofList]

/-- A line end behind a text is the only one exactly if the text has none. -/
theorem count_newline_eq_one_iff {s : String} :
    (s ++ "\n").toList.count '\n' = 1 ↔ Unbroken s := by
  have hend : "\n".toList = ['\n'] := by decide
  rw [String.toList_append, hend, List.count_append, List.count_singleton_self, Unbroken,
    ← List.count_eq_zero]
  omega

section Blanks

theorem isBlankText_append (s t : String) :
    isBlankText (s ++ t) = (isBlankText s && isBlankText t) := by
  rw [isBlankText, String.toList_append, List.all_append, isBlankText, isBlankText]

theorem isBlankText_dropFinalNewlines (s : String) :
    isBlankText (dropFinalNewlines s) = isBlankText s := by
  rw [isBlankText, isBlankText, dropFinalNewlines, String.toList_ofList]
  induction s.toList using List.reverseRecOn with
  | nil => rfl
  | append_singleton cs c ih =>
    rw [dropEndWhile_concat]
    split
    next hc =>
      have hblank : isBlank c = true := by
        rw [beq_iff_eq.1 hc]
        decide
      rw [ih, List.all_append, List.all_cons, hblank]
      simp
    next => rfl

end Blanks

section Digits

theorem newline_notMem_zeros (n : Nat) : '\n' ∉ List.replicate n '0' := by
  rw [List.mem_replicate]
  rintro ⟨-, ⟨⟩⟩

theorem newline_notMem_toDigits {b : Nat} (hb : 1 < b) (n : Nat) : '\n' ∉ Nat.toDigits b n := by
  have hdigit (k : Nat) : '\n' ∉ [k.digitChar] := by
    have hne : k.digitChar ≠ '\n' := Nat.digitChar_ne '\n' (by decide)
    rw [List.mem_singleton]
    exact hne.symm
  induction n using Nat.strongRecOn with
  | ind n ih =>
    rw [Nat.toDigits_eq_if hb]
    split
    · exact hdigit n
    next hn =>
      have hlt : n / b < n := Nat.div_lt_self (by omega) hb
      rw [List.mem_append, not_or]
      exact ⟨ih (n / b) hlt, hdigit (n % b)⟩

theorem unbroken_repr (n : Nat) : Unbroken n.repr := by
  rw [Nat.repr_eq_ofList_toDigits, unbroken_ofList]
  exact newline_notMem_toDigits (by decide) n

theorem unbroken_repr_int (n : Int) : Unbroken n.repr := by
  cases n with
  | ofNat n => exact unbroken_repr n
  | negSucc n => exact unbroken_append.2 ⟨by decide, unbroken_repr (n + 1)⟩

end Digits

namespace Literal

theorem newline_notMem_hex (width n : Nat) : '\n' ∉ hex width n := by
  rw [hex, List.mem_append, not_or]
  exact ⟨newline_notMem_zeros _, newline_notMem_toDigits (by decide) n⟩

theorem newline_notMem_escape {quote : Char} (hq : quote ≠ '\n') (c : Char) :
    '\n' ∉ escape quote c := by
  have hword (d : Char) (hd : d ≠ '\n') : '\n' ∉ ['\\', d] := by simp [hd.symm]
  have hhex (d : Char) (hd : d ≠ '\n') (width : Nat) : '\n' ∉ '\\' :: d :: hex width c.toNat := by
    simp [hd.symm, newline_notMem_hex]
  unfold escape
  split
  next h =>
    apply hword
    rintro rfl
    rcases h with h | h
    · exact hq h.symm
    · cases h
  next =>
    split
    next => exact hword 'n' (by decide)
    next hc =>
      split
      next => exact hword 'r' (by decide)
      next =>
        split
        next => exact hword 't' (by decide)
        next =>
          split
          next => rwa [List.mem_singleton, eq_comm]
          next =>
            split
            next => exact hhex 'x' (by decide) 2
            next =>
              split
              next => exact hhex 'u' (by decide) 4
              next => exact hhex 'U' (by decide) 8

/-- A literal escapes every line end. -/
theorem unbroken_ofText (s : String) : Unbroken (ofText s) := by
  have hq : quoteFor s.toList ≠ '\n' := by
    rcases quoteFor_eq s.toList with h | h <;> simp [h]
  rw [ofText, unbroken_ofList]
  simp only [List.cons_append, List.mem_cons, List.mem_append, List.mem_flatMap, List.not_mem_nil,
    or_false, not_or, not_exists, not_and]
  exact ⟨hq.symm, fun c _ => newline_notMem_escape hq c, hq.symm⟩

end Literal
end Typeset.Text

namespace Typeset.Binary64
open Text

theorem newline_notMem_ofNat (n : Nat) (t : Int) : '\n' ∉ (Decimal.ofNat n t).digits := by
  intro h
  have hall := List.mem_reverse.1 ((List.dropWhile_sublist _).subset (List.mem_reverse.1 h))
  exact newline_notMem_toDigits (by decide) n hall

variable {d : Decimal} (hd : '\n' ∉ d.digits)
include hd

theorem unbroken_positional {whole : String} (hw : Unbroken whole) : Unbroken (positional d whole) := by
  simp only [positional]
  split
  next =>
    refine unbroken_append.2 ⟨by decide, unbroken_ofList.2 ?_⟩
    rw [List.mem_append, not_or]
    exact ⟨newline_notMem_zeros _, hd⟩
  next =>
    split
    next =>
      refine unbroken_append.2 ⟨unbroken_ofList.2 ?_, hw⟩
      rw [List.mem_append, not_or]
      exact ⟨hd, newline_notMem_zeros _⟩
    next =>
      have hwhole : Unbroken (String.ofList (d.digits.take d.point.toNat)) :=
        unbroken_ofList.2 fun h => hd (List.mem_of_mem_take h)
      have hfraction : Unbroken (String.ofList (d.digits.drop d.point.toNat)) :=
        unbroken_ofList.2 fun h => hd (List.mem_of_mem_drop h)
      exact unbroken_append.2 ⟨unbroken_append.2 ⟨hwhole, by decide⟩, hfraction⟩

theorem unbroken_exponential : Unbroken (exponential d) := by
  have hsign : Unbroken (if d.point - 1 < 0 then "-" else "+") := by
    split <;> decide
  have hpower : Unbroken (String.ofList (List.replicate
      (2 - (Nat.toDigits 10 (d.point - 1).natAbs).length) '0' ++
        Nat.toDigits 10 (d.point - 1).natAbs)) := by
    rw [unbroken_ofList, List.mem_append, not_or]
    exact ⟨newline_notMem_zeros _, newline_notMem_toDigits (by decide) _⟩
  simp only [exponential]
  refine unbroken_append.2 ⟨unbroken_append.2 ⟨unbroken_append.2 ⟨?_, by decide⟩, hsign⟩, hpower⟩
  cases hc : d.digits with
  | nil => decide
  | cons c rest =>
    rw [hc, List.mem_cons, not_or] at hd
    have hfirst : Unbroken (String.singleton c) := by
      rw [Unbroken, String.toList_singleton, List.mem_singleton]
      exact hd.1
    cases rest with
    | nil => exact hfirst
    | cons e rest =>
      exact unbroken_append.2 ⟨unbroken_append.2 ⟨hfirst, by decide⟩, unbroken_ofList.2 hd.2⟩

omit hd in
theorem unbroken_signed (negative : Bool) {s : String} (hs : Unbroken s) :
    Unbroken (signed negative s) := by
  cases negative with
  | false => exact hs
  | true => exact unbroken_append.2 ⟨by decide, hs⟩

omit hd in
theorem unbroken_general (x : Binary64) : Unbroken x.general := by
  cases x with
  | nan => decide
  | infinite negative => exact unbroken_signed negative (by decide)
  | finite negative m e =>
    apply unbroken_signed
    have hd : '\n' ∉ (rounded 6 m e).digits := newline_notMem_ofNat _ _
    by_cases hm : m = 0
    · rw [if_pos hm]
      decide
    · rw [if_neg hm]
      simp only
      split
      · exact unbroken_positional hd (by decide)
      · exact unbroken_exponential hd

end Typeset.Binary64
