/-!
Splitting at a separator and joining again. Splitting always gives at least one piece, and joining
the pieces gives back the text.
-/

namespace Typeset.Text

def splitOn (sep : Char) : List Char → List (List Char)
  | [] => [[]]
  | c :: rest =>
    if c = sep then [] :: splitOn sep rest
    else match splitOn sep rest with
      | [] => [[c]]
      | w :: ws => (c :: w) :: ws

def joinWith (sep : Char) : List (List Char) → List Char
  | [] => []
  | [w] => w
  | w :: ws => w ++ sep :: joinWith sep ws

@[simp] theorem splitOn_nil (sep : Char) : splitOn sep [] = [[]] := rfl

@[simp] theorem joinWith_nil (sep : Char) : joinWith sep [] = [] := rfl

@[simp] theorem joinWith_singleton (sep : Char) (w : List Char) : joinWith sep [w] = w := rfl

theorem splitOn_ne_nil (sep : Char) (s : List Char) : splitOn sep s ≠ [] := by
  cases s with
  | nil => simp
  | cons c s =>
    simp only [splitOn]
    split
    · simp
    · split <;> simp

theorem joinWith_cons {sep : Char} {w : List Char} {ws : List (List Char)} (h : ws ≠ []) :
    joinWith sep (w :: ws) = w ++ sep :: joinWith sep ws := by
  cases ws with
  | nil => exact absurd rfl h
  | cons => rfl

@[simp] theorem joinWith_splitOn (sep : Char) (s : List Char) :
    joinWith sep (splitOn sep s) = s := by
  induction s with
  | nil => rfl
  | cons c s ih =>
    simp only [splitOn]
    split
    next h => rw [joinWith_cons (splitOn_ne_nil sep s), ih, h]; rfl
    next =>
      cases hs : splitOn sep s with
      | nil => exact absurd hs (splitOn_ne_nil sep s)
      | cons w ws =>
        rw [hs] at ih
        cases ws <;> simp_all [joinWith]

theorem splitOn_append (sep : Char) (s t : List Char) :
    splitOn sep (s ++ sep :: t) = splitOn sep s ++ splitOn sep t := by
  induction s with
  | nil => simp [splitOn]
  | cons c s ih =>
    simp only [List.cons_append, splitOn]
    split
    · simp [ih]
    · cases hs : splitOn sep s with
      | nil => exact absurd hs (splitOn_ne_nil sep s)
      | cons w ws => simp [ih, hs]

theorem splitOn_of_notMem {sep : Char} {s : List Char} (h : sep ∉ s) : splitOn sep s = [s] := by
  induction s with
  | nil => rfl
  | cons c s ih =>
    obtain ⟨hc, hs⟩ : sep ≠ c ∧ sep ∉ s := by simpa using h
    rw [splitOn, if_neg (Ne.symm hc), ih hs]

theorem notMem_of_mem_splitOn {sep : Char} {s w : List Char} (h : w ∈ splitOn sep s) : sep ∉ w := by
  induction s generalizing w with
  | nil =>
    rw [splitOn_nil, List.mem_singleton] at h
    simp [h]
  | cons c s ih =>
    rw [splitOn] at h
    split at h
    · rcases List.mem_cons.1 h with rfl | h
      · exact List.not_mem_nil
      · exact ih h
    next hc =>
      cases hs : splitOn sep s with
      | nil => exact absurd hs (splitOn_ne_nil sep s)
      | cons v vs =>
        simp only [hs, List.mem_cons] at h ih
        rcases h with rfl | h
        · have hv : sep ∉ v := ih (.inl rfl)
          simp [Ne.symm hc, hv]
        · exact ih (.inr h)

theorem exists_mem_splitOn_iff {sep c : Char} {s : List Char} (hc : c ≠ sep) :
    (∃ w ∈ splitOn sep s, c ∈ w) ↔ c ∈ s := by
  induction s with
  | nil => simp
  | cons d s ih =>
    rw [splitOn]
    split
    next hd => simp [ih, hd, hc]
    next hd =>
      cases hs : splitOn sep s with
      | nil => exact absurd hs (splitOn_ne_nil sep s)
      | cons w ws =>
        rw [hs] at ih
        simp [← ih, or_assoc]

theorem splitOn_joinWith {sep : Char} {ws : List (List Char)} (hne : ws ≠ [])
    (h : ∀ w ∈ ws, sep ∉ w) : splitOn sep (joinWith sep ws) = ws := by
  induction ws with
  | nil => exact absurd rfl hne
  | cons w ws ih =>
    have hw : splitOn sep w = [w] := splitOn_of_notMem (h w (.head _))
    cases ws with
    | nil => exact hw
    | cons v vs =>
      have hrest := ih (List.cons_ne_nil v vs) fun u hu => h u (.tail _ hu)
      rw [joinWith_cons (List.cons_ne_nil v vs), splitOn_append, hw, hrest]
      rfl

theorem joinWith_sublist (sep : Char) {vs ws : List (List Char)} (h : vs.Sublist ws) :
    (joinWith sep vs).Sublist (joinWith sep ws) := by
  induction h with
  | slnil => exact .slnil
  | @cons vs ws w h ih =>
    cases ws with
    | nil =>
      cases h
      exact List.nil_sublist w
    | cons u us =>
      rw [joinWith_cons (List.cons_ne_nil u us)]
      exact (ih.cons sep).trans (List.sublist_append_right w _)
  | @cons_cons vs ws w h ih =>
    cases ws with
    | nil =>
      cases h
      exact .refl _
    | cons u us =>
      rw [joinWith_cons (List.cons_ne_nil u us)]
      cases vs with
      | nil => exact List.sublist_append_left w _
      | cons v vs =>
        rw [joinWith_cons (List.cons_ne_nil v vs)]
        exact (List.Sublist.refl w).append (ih.cons_cons sep)

def split (sep : Char) (s : String) : List String := (splitOn sep s.toList).map String.ofList

def join (sep : Char) (ss : List String) : String := String.ofList (joinWith sep (ss.map String.toList))

def replaceChar (a b : Char) (s : String) : String :=
  String.ofList (s.toList.map fun c => if c = a then b else c)

theorem notMem_of_mem_split {sep : Char} {s w : String} (h : w ∈ split sep s) : sep ∉ w.toList := by
  obtain ⟨u, hu, rfl⟩ := List.mem_map.1 h
  rw [String.toList_ofList]
  exact notMem_of_mem_splitOn hu

theorem exists_mem_split_iff {sep c : Char} {s : String} (hc : c ≠ sep) :
    (∃ w ∈ split sep s, c ∈ w.toList) ↔ c ∈ s.toList := by
  rw [← exists_mem_splitOn_iff hc]
  constructor
  · rintro ⟨w, hw, h⟩
    obtain ⟨u, hu, rfl⟩ := List.mem_map.1 hw
    exact ⟨u, hu, by simpa using h⟩
  · rintro ⟨u, hu, h⟩
    exact ⟨_, List.mem_map_of_mem hu, by simpa using h⟩

theorem split_ne_nil (sep : Char) (s : String) : split sep s ≠ [] := by
  simp [split, splitOn_ne_nil]

theorem split_of_notMem {sep : Char} {s : String} (h : sep ∉ s.toList) : split sep s = [s] := by
  simp [split, splitOn_of_notMem h]

theorem split_join {sep : Char} {ss : List String} (hne : ss ≠ [])
    (h : ∀ s ∈ ss, sep ∉ s.toList) : split sep (join sep ss) = ss := by
  have hs : splitOn sep (joinWith sep (ss.map String.toList)) = ss.map String.toList := by
    apply splitOn_joinWith (by simpa using hne)
    intro w hw
    obtain ⟨s, hs, rfl⟩ := List.mem_map.1 hw
    exact h s hs
  simp [split, join, hs, Function.comp_def]

@[simp] theorem join_split (sep : Char) (s : String) : join sep (split sep s) = s := by
  simp [join, split, Function.comp_def]

end Typeset.Text
