/-!
Environment variables: names with values, each name once, in the order in which they were first
set. `overlay` lays one set of variables over another.
-/

namespace Typeset

structure Variables where
  pairs : List (String × String)
  deriving DecidableEq

namespace Variables

def empty : Variables := ⟨[]⟩

def get? (v : Variables) (name : String) : Option String := v.pairs.lookup name

def setPair (name value : String) : List (String × String) → List (String × String)
  | [] => [(name, value)]
  | (n, x) :: rest => if n = name then (name, value) :: rest else (n, x) :: setPair name value rest

def set (v : Variables) (name value : String) : Variables := ⟨setPair name value v.pairs⟩

def overlay (v top : Variables) : Variables := top.pairs.foldl (fun w p => w.set p.1 p.2) v

/-- Variables from pairs; of a repeated name the last value counts. -/
def ofList (ps : List (String × String)) : Variables := empty.overlay ⟨ps⟩

def nonEmpty? (v : Variables) (name : String) : Option String :=
  (v.get? name).filter (· ≠ "")

def sorted (v : Variables) : List (String × String) :=
  v.pairs.mergeSort fun p q => !(q.1 < p.1)

@[simp] theorem get?_empty (name : String) : empty.get? name = none := rfl

theorem lookup_setPair (ps : List (String × String)) (name value n : String) :
    (setPair name value ps).lookup n = if n = name then some value else ps.lookup n := by
  induction ps with
  | nil => simp only [setPair, List.lookup_cons, List.lookup_nil]; split <;> simp_all
  | cons p ps ih =>
    obtain ⟨m, x⟩ := p
    simp only [setPair]
    split
    next h =>
      subst h
      simp only [List.lookup_cons]
      split <;> simp_all
    next h =>
      simp only [List.lookup_cons, ih]
      split <;> simp_all

@[simp] theorem get?_set (v : Variables) (name value n : String) :
    (v.set name value).get? n = if n = name then some value else v.get? n :=
  lookup_setPair v.pairs name value n

@[simp] theorem overlay_empty (v : Variables) : v.overlay empty = v := rfl

theorem get?_eq_none_of_notMem {v : Variables} {n : String} (h : n ∉ v.pairs.map Prod.fst) :
    v.get? n = none := by
  rw [get?, List.lookup_eq_none_iff]
  intro p hp
  have hmem : p.1 ∈ v.pairs.map Prod.fst := List.mem_map_of_mem hp
  have hne : n ≠ p.1 := fun he => h (he ▸ hmem)
  simpa using hne

theorem get?_of_mem {v : Variables} (h : (v.pairs.map Prod.fst).Nodup) {n x : String}
    (hm : (n, x) ∈ v.pairs) : v.get? n = some x := by
  obtain ⟨ps⟩ := v
  induction ps with
  | nil => cases hm
  | cons p ps ih =>
    obtain ⟨hp, hps⟩ := List.nodup_cons.1 h
    rw [get?, List.lookup_cons]
    cases hm with
    | head => simp
    | tail _ hm =>
      have hmem : n ∈ ps.map Prod.fst := List.mem_map_of_mem (f := Prod.fst) hm
      have hb : (n == p.1) = false := beq_false_of_ne fun he => hp (he ▸ hmem)
      rw [hb]
      exact ih hps hm

theorem get?_overlay (v : Variables) {top : Variables} (h : (top.pairs.map Prod.fst).Nodup)
    (n : String) : (v.overlay top).get? n = (top.get? n).or (v.get? n) := by
  obtain ⟨ps⟩ := top
  induction ps generalizing v with
  | nil => rfl
  | cons p ps ih =>
    obtain ⟨m, x⟩ := p
    obtain ⟨hm, hps⟩ := List.nodup_cons.1 h
    have hrest : (v.overlay ⟨(m, x) :: ps⟩).get? n = (ps.lookup n).or ((v.set m x).get? n) :=
      ih (v.set m x) hps
    rw [hrest, get?_set, get?.eq_1 ⟨(m, x) :: ps⟩, List.lookup_cons]
    by_cases hn : n = m
    · -- the rest does not set the first name again
      subst hn
      have hnone : ps.lookup n = none := get?_eq_none_of_notMem (v := ⟨ps⟩) hm
      simp [hnone]
    · have hb : (n == m) = false := beq_false_of_ne hn
      simp [hn, hb]

end Variables
end Typeset
