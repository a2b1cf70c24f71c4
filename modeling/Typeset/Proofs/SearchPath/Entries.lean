import Typeset.Overlay

/-!
# The entries of a search path

A composed search path splits at its separator into the entries of what the environment holds, those of
the directory, and one empty entry. None of them is dropped or added, also where the text of the
environment begins or ends with a separator or has two in a row: to TeX an empty entry has a meaning.
Backslashes are rewritten entry by entry, in one variable on one platform.
-/

namespace Typeset
open Text

namespace Text
variable {sep a b : Char}

/-- A replacement that does not touch the separators is made piece by piece. -/
theorem splitOn_map_replace (ha : sep ≠ a) (hb : sep ≠ b) (s : List Char) :
    splitOn sep (s.map fun c => if c = a then b else c) =
      (splitOn sep s).map (·.map fun c => if c = a then b else c) := by
  induction s with
  | nil => rfl
  | cons c s ih =>
    have hsep : (if c = a then b else c) = sep ↔ c = sep := by
      split
      next hc => subst hc; exact ⟨fun h => absurd h.symm hb, fun h => absurd h.symm ha⟩
      next => rfl
    rw [List.map_cons, splitOn, splitOn, ih]
    by_cases hc : c = sep
    · rw [if_pos (hsep.2 hc), if_pos hc]
      rfl
    · rw [if_neg (mt hsep.1 hc), if_neg hc]
      cases splitOn sep s <;> rfl

theorem split_replaceChar (ha : sep ≠ a) (hb : sep ≠ b) (s : String) :
    split sep (replaceChar a b s) = (split sep s).map (replaceChar a b) := by
  simp [split, replaceChar, splitOn_map_replace ha hb, Function.comp_def]

theorem toList_join_empty (sep : Char) (s t : String) :
    (join sep [s, t, ""]).toList = s.toList ++ sep :: t.toList ++ [sep] := by
  simp [join, joinWith]

theorem split_join_empty (sep : Char) (s t : String) :
    split sep (join sep [s, t, ""]) = split sep s ++ split sep t ++ [""] := by
  rw [split, toList_join_empty, List.append_assoc, List.cons_append, splitOn_append, splitOn_append]
  simp [split]

end Text

theorem Platform.separator_ne (p : Platform) : p.separator ≠ '\\' ∧ p.separator ≠ '/' := by
  cases p <;> decide

theorem split_forwardSlashes (p : Platform) (s : String) :
    split p.separator (forwardSlashes s) = (split p.separator s).map forwardSlashes :=
  split_replaceChar p.separator_ne.1 p.separator_ne.2 s

namespace SearchPath

/-- The text that a variable begins with: what the environment holds for it, or a dot if that is
nothing. -/
def Begins (env : Variables) (name a : String) : Prop :=
  env.get? name = some a ∧ a ≠ "" ∨ (env.get? name = none ∨ env.get? name = some "") ∧ a = "."

/-- A search path splits into what it was composed of: the entries of the text that it begins with and
those of a directory, all of them written by `write`, and an empty one. -/
structure SplitsBack (v : SearchPath) (env : Variables) (d : PlatformPath) (p : Platform)
    (write : String → String) : Prop where
  entries : ∃ a, Begins env v.name a ∧ split p.separator v.value =
    (split p.separator a ++ split p.separator d.toText).map write ++ [""]
  directory : p.separator ∉ d.toText.toList → split p.separator d.toText = [d.toText]
  last : v.value.toList.getLast? = some p.separator

theorem begins_ambient (env : Variables) (name : String) : Begins env name (ambient env name) := by
  rw [ambient, Variables.nonEmpty?, Begins]
  cases env.get? name with
  | none => simp
  | some x => by_cases hx : x = "" <;> simp [hx, Option.filter]

def writing (p : Platform) (slashes : Bool) : String → String :=
  if p.isWindows && slashes then forwardSlashes else id

theorem value_extending_eq (name : String) (d : PlatformPath) (env : Variables) (p : Platform)
    (slashes : Bool) :
    (extending name d env p slashes).value =
      join p.separator [writing p slashes (ambient env name), writing p slashes d.toText, ""] := by
  rw [value, extending, writing]
  cases p.isWindows && slashes <;> rfl

theorem split_writing (p : Platform) (slashes : Bool) (s : String) :
    split p.separator (writing p slashes s) = (split p.separator s).map (writing p slashes) := by
  rw [writing]
  split
  · exact split_forwardSlashes p s
  · exact (List.map_id _).symm

theorem splitsBack_extending (name : String) (d : PlatformPath) (env : Variables) (p : Platform)
    (slashes : Bool) :
    SplitsBack (extending name d env p slashes) env d p (writing p slashes) where
  entries := by
    refine ⟨ambient env name, begins_ambient env name, ?_⟩
    rw [value_extending_eq, split_join_empty, split_writing, split_writing, List.map_append]
  directory := split_of_notMem
  last := by
    rw [value_extending_eq, toList_join_empty]
    exact List.getLast?_concat

example : split ':' (extending "TEXINPUTS" (.posix ⟨.root, ["inputs"]⟩) ⟨[("TEXINPUTS", ":a::")]⟩
    .posix true).value = ["", "a", "", "", "/inputs", ""] := by decide

theorem backslash_notMem_value (name : String) (d : PlatformPath) (env : Variables) :
    '\\' ∉ (extending name d env .windows true).value.toList := by
  have hheld := backslash_notMem_forwardSlashes (ambient env name)
  have hdirectory := backslash_notMem_forwardSlashes d.toText
  rw [value_extending_eq, toList_join_empty]
  simp only [List.mem_append, List.mem_cons, List.not_mem_nil, or_false, not_or]
  exact ⟨⟨hheld, by decide, hdirectory⟩, by decide⟩

/-- The three search paths of a tree of inputs, in their order, split back into what went in. On
Windows the first one is written with slashes; everything else is left as it is. -/
theorem searchPaths_split_back (t : Texmf) (env : Variables) (p : Platform) :
    ∃ latex bibliographies styles, searchPaths (some t) env p = [latex, bibliographies, styles] ∧
      latex.name = "TEXINPUTS" ∧ bibliographies.name = "BIBINPUTS" ∧ styles.name = "BSTINPUTS" ∧
      latex.SplitsBack env t.latex p (if p = .windows then forwardSlashes else id) ∧
      bibliographies.SplitsBack env t.bibliographies p id ∧
      styles.SplitsBack env t.styles p id ∧
      (p = .windows → '\\' ∉ latex.value.toList) := by
  have hlatex : writing p true = if p = .windows then forwardSlashes else id := by
    cases p <;> rfl
  have hothers : writing p false = id := by
    rw [writing, Bool.and_false]
    rfl
  refine ⟨_, _, _, rfl, rfl, rfl, rfl, ?_, ?_, ?_, ?_⟩
  · exact hlatex ▸ splitsBack_extending "TEXINPUTS" t.latex env p true
  · exact hothers ▸ splitsBack_extending "BIBINPUTS" t.bibliographies env p false
  · exact hothers ▸ splitsBack_extending "BSTINPUTS" t.styles env p false
  · rintro rfl
    exact backslash_notMem_value _ _ _

end SearchPath
end Typeset
