import Typeset.FileSystem.RealPath
import Typeset.Proofs.FileSystem.NormalForm

/-!
# The names of a real path

A name with a slash, an empty one, and one or two dots are no names of entries. A real path is made of
names of entries alone, however the path that leads there is written and whatever the links on the way
hold, if the working directory is made of such names. So its last name, seen from the path above it,
writes that very path.
-/

namespace Typeset
open Text

namespace FileSystem
open PosixPath

/-- A name that an entry of a directory can have. -/
structure IsEntryName (n : String) : Prop where
  ne_empty : n ≠ ""
  ne_here : n ≠ "."
  ne_above : n ≠ ".."
  slash_notMem : '/' ∉ n.toList

/-- A name that can stand in a path: that of an entry, or two dots. -/
def IsStep (n : String) : Prop := n = ".." ∨ IsEntryName n

theorem isEntryName_of_not_isHere {n : String} (hn : ¬isHere n = true) (hu : n ≠ "..")
    (hs : '/' ∉ n.toList) : IsEntryName n := by
  simp only [isHere, Bool.or_eq_true, decide_eq_true_eq, not_or] at hn
  exact ⟨hn.1, hn.2, hu, hs⟩

theorem isStep_of_mem_ofText {s n : String} (h : n ∈ (ofText s).names) : IsStep n := by
  obtain ⟨-, hn, hs⟩ := isName_of_mem_names s h
  by_cases hu : n = ".."
  · exact .inl hu
  · exact .inr (isEntryName_of_not_isHere (by simp [hn]) hu hs)

theorem isEntryName_of_mem_collapseNames {done todo : List String} (hd : ∀ n ∈ done, IsEntryName n)
    (ht : ∀ n ∈ todo, IsStep n) : ∀ n ∈ collapseNames true done todo, IsEntryName n := by
  induction todo generalizing done with
  | nil => simpa [collapseNames] using hd
  | cons m todo ih =>
    obtain ⟨hm, ht⟩ := List.forall_mem_cons.1 ht
    simp only [collapseNames.eq_def true done (m :: _)]
    split
    next hu => exact ih (List.forall_mem_cons.2 ⟨hm.resolve_left hu, hd⟩) ht
    next =>
      cases done with
      | nil => exact ih hd ht
      | cons d ds =>
        obtain ⟨hd, hds⟩ := List.forall_mem_cons.1 hd
        simp only [if_neg hd.ne_above]
        exact ih hds ht

theorem isStep_of_mem_append {p q : PosixPath} (hp : ∀ n ∈ p.names, IsStep n)
    (hq : ∀ n ∈ q.names, IsStep n) : ∀ n ∈ (p ++ q).names, IsStep n := by
  intro n hn
  have happ : p ++ q = PosixPath.append p q := rfl
  rw [happ, PosixPath.append] at hn
  split at hn
  · exact hq n hn
  · rcases List.mem_append.1 hn with hn | hn
    · exact hp n hn
    · exact hq n hn

theorem isEntryName_of_mem_absolute {p q : PosixPath} (hp : ∀ n ∈ p.names, IsStep n)
    (habs : p.isAbsolute = true) (hq : ∀ n ∈ q.names, IsStep n) :
    ∀ n ∈ (absolute p q).names, IsEntryName n := by
  have hnames : (absolute p q).names = collapseNames (absolute p q).isAbsolute [] (p ++ q).names :=
    rfl
  rw [hnames, isAbsolute_absolute habs]
  exact isEntryName_of_mem_collapseNames (by simp) (isStep_of_mem_append hp hq)

namespace Waypoint
variable {w : Waypoint}

/-- A place on the way that is told by names of entries. -/
def IsTold (w : Waypoint) : Prop := ∀ n ∈ w.names, IsEntryName n

theorem isTold_root : root.IsTold := fun _ hn => nomatch hn

theorem isTold_here : here.IsTold := fun _ hn => nomatch hn

theorem IsTold.parent (h : w.IsTold) : w.parent.IsTold := by
  intro n hn
  rw [Waypoint.parent] at hn
  split at hn
  · cases hn
  · exact h n (List.dropLast_subset _ hn)

theorem IsTold.enter {name : String} (h : w.IsTold) (hn : IsEntryName name) :
    (w.enter name).IsTold := by
  intro n hm
  rcases List.mem_append.1 hm with hm | hm
  · exact h n hm
  · rw [List.mem_singleton.1 hm]
    exact hn

theorem IsTold.start (h : w.IsTold) (path : String) :
    (if path.front = '/' then root else w).IsTold := by
  split
  · exact isTold_root
  · exact h

theorem IsTold.path (h : w.IsTold) : ∀ n ∈ w.path.names, IsStep n := by
  intro n hn
  rw [Waypoint.path] at hn
  split at hn
  · exact .inr (h n hn)
  · rcases List.mem_append.1 hn with hn | hn
    · exact .inl (List.eq_of_mem_replicate hn)
    · exact .inr (h n hn)

end Waypoint

variable {fs : FileSystem} {cwd : Location} {path : String}

/-- All that is remembered of links is told by names of entries. -/
def LinkMemory.IsTold (memory : LinkMemory) : Prop :=
  ∀ next known, memory.lookup next = some (some known) → known.IsTold

theorem LinkMemory.IsTold.cons {memory : LinkMemory} (h : memory.IsTold) (next : Waypoint)
    {answer : Option Waypoint} (ha : ∀ known ∈ answer, known.IsTold) :
    LinkMemory.IsTold ((next, answer) :: memory) := by
  intro other known hk
  rw [List.lookup_cons] at hk
  split at hk
  · exact ha known (Option.some.inj hk)
  · exact h other known hk

/-- The real path as far as it has been worked out is told by names of entries, with double dots only
in what is left at a circle. -/
def RealNames.IsTold : RealNames → Prop
  | .complete found memory => found.IsTold ∧ memory.IsTold
  | .circle left => ∀ n ∈ left.names, IsStep n

theorem isStep_of_mem_followedBy {p : PosixPath} (hp : ∀ n ∈ p.names, IsStep n)
    (rest : List String) : ∀ n ∈ (followedBy p rest).names, IsStep n :=
  isStep_of_mem_append hp fun _ => isStep_of_mem_ofText

-- The induction is on the walk; what the memory holds has to be told as well, since a known link is
-- not walked again.
theorem isTold_realNames (fs : FileSystem) (cwd : Location) (depth : Nat) {w : Waypoint}
    {todo : List String} {memory : LinkMemory} (hw : w.IsTold) (ht : ∀ n ∈ todo, '/' ∉ n.toList)
    (hm : memory.IsTold) : (fs.realNames cwd depth w todo memory).IsTold := by
  fun_induction realNames fs cwd depth w todo memory with
  | case1 depth w memory => exact ⟨hw, hm⟩
  | case2 depth w name rest memory hn ih => exact ih hw (List.forall_mem_cons.1 ht).2 hm
  | case3 depth w rest memory hn ih => exact ih hw.parent (List.forall_mem_cons.1 ht).2 hm
  | case4 depth w name rest memory hn hu next target he known hk ih =>
    exact ih (hm next known hk) (List.forall_mem_cons.1 ht).2 hm
  | case5 depth w name rest memory hn hu next target he hk =>
    exact isStep_of_mem_followedBy (hw.enter
      (isEntryName_of_not_isHere hn hu (List.forall_mem_cons.1 ht).1)).path rest
  | case6 w name rest memory hn hu next target he hk =>
    exact isStep_of_mem_followedBy (hw.enter
      (isEntryName_of_not_isHere hn hu (List.forall_mem_cons.1 ht).1)).path rest
  | case7 w name rest memory hn hu next target he hk depth found memory' hfound ih₁ ih₂ =>
    have htarget := ih₁ (hw.start target) (fun _ => notMem_of_mem_split) (hm.cons next (by simp))
    rw [hfound] at htarget
    exact ih₂ htarget.1 (List.forall_mem_cons.1 ht).2 (htarget.2.cons next (by simp [htarget.1]))
  | case8 w name rest memory hn hu next target he hk depth left hleft ih =>
    have htarget := ih (hw.start target) (fun _ => notMem_of_mem_split) (hm.cons next (by simp))
    rw [hleft] at htarget
    exact isStep_of_mem_followedBy htarget rest
  | case9 depth w name rest memory hn hu next he ih =>
    exact ih (hw.enter (isEntryName_of_not_isHere hn hu (List.forall_mem_cons.1 ht).1))
      (List.forall_mem_cons.1 ht).2 hm

theorem isEntryName_of_mem_realPath (hcwd : ∀ n ∈ cwd, IsEntryName n) :
    ∀ n ∈ (fs.realPath cwd path).names, IsEntryName n := by
  have hstart := Waypoint.isTold_here.start path
  have hmemory : LinkMemory.IsTold [] := fun _ _ h => by cases h
  have htold : (fs.realNamesOf cwd path).IsTold :=
    isTold_realNames fs cwd ((cwd.length + 2) * fs.linkCount + 1) hstart
      (fun _ => notMem_of_mem_split) hmemory
  rw [realPath]
  split
  next found memory hfound =>
    rw [hfound] at htold
    intro n hn
    simp only [Waypoint.location] at hn
    split at hn
    · exact htold.1 n hn
    · rcases List.mem_append.1 hn with hn | hn
      · exact hcwd n (List.mem_of_mem_take hn)
      · exact htold.1 n hn
  next left hleft =>
    rw [hleft] at htold
    exact isEntryName_of_mem_absolute (fun n hn => .inr (hcwd n hn)) rfl htold

theorem isAbsolute_realPath : (fs.realPath cwd path).isAbsolute = true := by
  rw [realPath]
  split
  · rfl
  · exact isAbsolute_absolute rfl _

end FileSystem
end Typeset
