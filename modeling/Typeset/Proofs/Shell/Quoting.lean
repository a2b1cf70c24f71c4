import Typeset.Shell.Words

/-!
# Words that are written and read back

A word that is written is read back by the rules for blanks, quotes and backslashes, whatever stands
behind it: plain words as they are, and others through the quotes around them, which a single quote
leaves for as long as it takes to write it. So a command is read back word by word, and no two commands
are written alike. A shell gives meanings to more characters than the reader of words knows; none of
those is ever written where a shell would see it.
-/

namespace Typeset.Shell

/-- The characters of a line that a shell may give a meaning to: those outside quotes that no backslash
protects, and, between double quotes, the two that begin an expansion. -/
def exposedFrom : Quoting → List Char → List Char
  | _, [] => []
  | .none, '\\' :: _ :: rest => exposedFrom .none rest
  | .none, c :: rest =>
    if c = '\'' then exposedFrom .single rest
    else if c = '"' then exposedFrom .double rest
    else c :: exposedFrom .none rest
  | .single, c :: rest => exposedFrom (if c = '\'' then .none else .single) rest
  | .double, '\\' :: _ :: rest => exposedFrom .double rest
  | .double, c :: rest =>
    if c = '"' then exposedFrom .none rest
    else if c = '$' ∨ c = '\x60' then c :: exposedFrom .double rest
    else exposedFrom .double rest

def exposed (s : String) : List Char := exposedFrom .none s.toList

theorem ne_of_isPlain {c : Char} (h : isPlain c = true) :
    c ≠ '\\' ∧ c ≠ '\'' ∧ c ≠ '"' ∧ isSeparator c = false := by
  have hne {d : Char} (hd : isPlain d = false) : c ≠ d := by
    rintro rfl
    rw [h] at hd
    cases hd
  refine ⟨hne rfl, hne rfl, hne rfl, ?_⟩
  simp [isSeparator, hne (d := ' ') rfl, hne (d := '\t') rfl, hne (d := '\n') rfl]

section Steps
variable {c : Char} (word : Option (List Char)) (v rest : List Char)

theorem wordsFrom_cons_of_isPlain (hc : isPlain c = true) :
    wordsFrom .none word (c :: rest) = wordsFrom .none (some (word.getD [] ++ [c])) rest := by
  obtain ⟨hb, hs, hd, hsep⟩ := ne_of_isPlain hc
  simp [wordsFrom, hb, hs, hd, hsep]

theorem exposedFrom_cons_of_isPlain (hc : isPlain c = true) :
    exposedFrom .none (c :: rest) = c :: exposedFrom .none rest := by
  obtain ⟨hb, hs, hd, -⟩ := ne_of_isPlain hc
  simp [exposedFrom, hb, hs, hd]

/-- Between single quotes a character is read back, also the quote itself. -/
theorem wordsFrom_quoteChar (c : Char) :
    wordsFrom .single (some v) (quoteChar c ++ rest) = wordsFrom .single (some (v ++ [c])) rest := by
  by_cases hc : c = '\'' <;> simp [quoteChar, hc, wordsFrom, isSeparator]

theorem exposedFrom_quoteChar (c : Char) :
    exposedFrom .single (quoteChar c ++ rest) = exposedFrom .single rest := by
  by_cases hc : c = '\'' <;> simp [quoteChar, hc, exposedFrom]

end Steps

section Word
variable (w rest : List Char)

theorem wordsFrom_plain (v : List Char) {w : List Char} (hw : w.all isPlain = true) :
    wordsFrom .none (some v) (w ++ rest) = wordsFrom .none (some (v ++ w)) rest := by
  induction w generalizing v with
  | nil => simp
  | cons c w ih =>
    obtain ⟨hc, hw⟩ : isPlain c = true ∧ w.all isPlain = true := by simpa using hw
    rw [List.cons_append, wordsFrom_cons_of_isPlain _ _ hc, Option.getD_some, ih _ hw,
      List.append_assoc, List.singleton_append]

theorem exposedFrom_plain {w : List Char} (hw : w.all isPlain = true) :
    exposedFrom .none (w ++ rest) = w ++ exposedFrom .none rest := by
  induction w with
  | nil => rfl
  | cons c w ih =>
    obtain ⟨hc, hw⟩ : isPlain c = true ∧ w.all isPlain = true := by simpa using hw
    rw [List.cons_append, exposedFrom_cons_of_isPlain _ hc, ih hw, List.cons_append]

theorem wordsFrom_single (v : List Char) :
    wordsFrom .single (some v) (w.flatMap quoteChar ++ '\'' :: rest) =
      wordsFrom .none (some (v ++ w)) rest := by
  induction w generalizing v with
  | nil => simp [wordsFrom]
  | cons c w ih =>
    rw [List.flatMap_cons, List.append_assoc, wordsFrom_quoteChar, ih, List.append_assoc,
      List.singleton_append]

theorem exposedFrom_single :
    exposedFrom .single (w.flatMap quoteChar ++ '\'' :: rest) = exposedFrom .none rest := by
  induction w with
  | nil => simp [exposedFrom]
  | cons c w ih => rw [List.flatMap_cons, List.append_assoc, exposedFrom_quoteChar, ih]

/-- A written word is read back, whatever follows it. -/
theorem wordsFrom_quoteChars :
    wordsFrom .none Option.none (quoteChars w ++ rest) = wordsFrom .none (some w) rest := by
  rw [quoteChars]
  split
  next h =>
    obtain ⟨c, cs, rfl⟩ := List.exists_cons_of_ne_nil h.1
    obtain ⟨hc, hcs⟩ : isPlain c = true ∧ cs.all isPlain = true := by simpa using h.2
    rw [List.cons_append, wordsFrom_cons_of_isPlain _ _ hc, wordsFrom_plain _ _ hcs]
    rfl
  next =>
    have hopen : wordsFrom .none Option.none ('\'' :: (w.flatMap quoteChar ++ '\'' :: rest)) =
        wordsFrom .single (some []) (w.flatMap quoteChar ++ '\'' :: rest) := by
      simp [wordsFrom, isSeparator]
    simp only [List.cons_append, List.append_assoc, hopen, wordsFrom_single, List.nil_append]

theorem exposedFrom_quoteChars :
    ∃ shown, (∀ c ∈ shown, isPlain c = true) ∧
      exposedFrom .none (quoteChars w ++ rest) = shown ++ exposedFrom .none rest := by
  rw [quoteChars]
  split
  next h => exact ⟨w, List.all_eq_true.1 h.2, exposedFrom_plain rest h.2⟩
  next =>
    refine ⟨[], by simp, ?_⟩
    simp [exposedFrom, exposedFrom_single]

end Word

theorem wordsFrom_formatChars (ws : List (List Char)) :
    wordsFrom .none Option.none (formatChars ws) = some ws := by
  induction ws with
  | nil => rfl
  | cons w ws ih =>
    by_cases hws : ws = []
    · subst hws
      have hword := wordsFrom_quoteChars w []
      rwa [List.append_nil] at hword
    · rw [formatChars_cons hws, wordsFrom_quoteChars]
      simp [wordsFrom, isSeparator, ih]

theorem exposedFrom_formatChars (ws : List (List Char)) :
    ∀ c ∈ exposedFrom .none (formatChars ws), isPlain c = true ∨ c = ' ' := by
  induction ws with
  | nil => intro c hc; cases hc
  | cons w ws ih =>
    by_cases hws : ws = []
    · obtain ⟨shown, hshown, he⟩ := exposedFrom_quoteChars w []
      subst hws
      intro c hc
      rw [List.append_nil] at he
      rw [formatChars, he] at hc
      exact .inl (hshown c (by simpa [exposedFrom] using hc))
    · obtain ⟨shown, hshown, he⟩ := exposedFrom_quoteChars w (' ' :: formatChars ws)
      intro c hc
      have hblank : exposedFrom .none (' ' :: formatChars ws) =
          ' ' :: exposedFrom .none (formatChars ws) := by
        simp [exposedFrom]
      rw [formatChars_cons hws, he, hblank, List.mem_append, List.mem_cons] at hc
      rcases hc with hc | hc | hc
      · exact .inl (hshown c hc)
      · exact .inr hc
      · exact ih c hc

/-- A command that is written is read back as it was, so two commands are never written alike. Outside
quotes it shows the shell nothing but plain characters and the blanks between words. -/
theorem format_read_back :
    (∀ ws, words? (format ws) = some ws) ∧ Function.Injective format ∧
      ∀ ws, ∀ c ∈ exposed (format ws), isPlain c = true ∨ c = ' ' := by
  have hread (ws : List String) : words? (format ws) = some ws := by
    have hback : (ws.map String.toList).map String.ofList = ws := by
      simp [Function.comp_def]
    rw [words?, format, String.toList_ofList, wordsFrom_formatChars, Option.map_some, hback]
  refine ⟨hread, ?_, ?_⟩
  · intro vs ws h
    exact Option.some.inj ((hread vs).symm.trans ((congrArg words? h).trans (hread ws)))
  · intro ws
    rw [exposed, format, String.toList_ofList]
    exact exposedFrom_formatChars _

example : format ["texi2dvi", "my paper.tex", "it's"] =
    "texi2dvi 'my paper.tex' 'it'\"'\"'s'" := by decide

end Typeset.Shell
