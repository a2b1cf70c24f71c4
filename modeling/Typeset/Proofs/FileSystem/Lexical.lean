import Typeset.Proofs.FileSystem.Reaching
import Typeset.Proofs.Path.Absolute

/-!
# Two dots on paper and on the way

Removing two dots from the text of a path takes away the name before them. A walk goes to the directory
above the one it is in. That is the same as long as the walk has not followed a link, and a name without
two dots is read alike in any case. So a path leads where its absolute form without two dots does, if it
takes no two dots behind a link. Behind one, the two may be places that have nothing to do with each
other.
-/

namespace Typeset.FileSystem
open Text PosixPath

variable {fs : FileSystem} {here mid loc : Location} {todo rest : List String}

/-- A location that its own names lead to from the root, without a link. -/
structure IsReal (fs : FileSystem) (loc : Location) : Prop where
  names : ∀ n ∈ loc, IsEntryName n
  reached : fs.Leads 0 [] loc loc

namespace IsReal

theorem nil (fs : FileSystem) : fs.IsReal [] := ⟨by simp, .done 0 []⟩

theorem enter {n : String} {e : Entry} (h : fs.IsReal here) (hd : fs.hasDirectory here = true)
    (hn : IsEntryName n) (hl : n.utf8ByteSize ≤ nameLimit) (he : fs.entry? (here ++ [n]) = some e)
    (hk : ∀ target, e ≠ .link target) : fs.IsReal (here ++ [n]) := by
  have hhere : isHere n = false := by simp [isHere, hn.ne_empty, hn.ne_here]
  constructor
  · intro m hm
    rcases List.mem_append.1 hm with hm | hm
    · exact h.names m hm
    · rw [List.mem_singleton.1 hm]
      exact hn
  · exact h.reached.append (.enter hd hhere hn.ne_above hl he hk (.done 0 _))

theorem above (h : fs.IsReal here) : fs.IsReal here.dropLast := by
  rcases List.eq_nil_or_concat' here with rfl | ⟨dir, n, rfl⟩
  · exact h
  · obtain ⟨hn, hreached⟩ := h
    have hlast : IsEntryName n := hn n (by simp)
    rw [List.dropLast_concat]
    refine ⟨fun m hm => hn m (List.mem_append_left _ hm), ?_⟩
    obtain ⟨mid, l, m, hlm, hdir, hname⟩ := hreached.split
    obtain ⟨rfl, rfl⟩ : l = 0 ∧ m = 0 := by omega
    -- the last name is entered, so before it the walk was in the directory above
    generalize hloc : dir ++ [n] = loc at hname
    cases hname with
    | stay hd hhere h => simp [isHere, hlast.ne_empty, hlast.ne_here] at hhere
    | up hd h => exact absurd rfl hlast.ne_above
    | enter hd hhere hu hl he hk h =>
      cases h
      obtain rfl := List.append_inj_left' hloc rfl
      exact hdir

/-- A walk without links goes from real locations to real ones. -/
theorem of_leads (h : fs.IsReal here) (hw : fs.Leads 0 here todo loc)
    (hs : ∀ n ∈ todo, '/' ∉ n.toList) : fs.IsReal loc := by
  generalize hk : 0 = k at hw
  induction hw with
  | done links here => exact h
  | stay hd hn hw ih => exact ih h (List.forall_mem_cons.1 hs).2 hk
  | up hd hw ih => exact ih h.above (List.forall_mem_cons.1 hs).2 hk
  | follow hd hn hu hl he ht hw ih => cases hk
  | enter hd hn hu hl he hk' hw ih =>
    obtain ⟨hslash, hs⟩ := List.forall_mem_cons.1 hs
    have hname := isEntryName_of_not_isHere (by simp [hn]) hu hslash
    exact ih (h.enter hd hname hl he hk') hs hk

end IsReal

section Collapse
variable {absolute : Bool} {n : String} {done : List String}

theorem collapseNames_cons (hn : n ≠ "..") :
    collapseNames absolute done (n :: rest) = collapseNames absolute (n :: done) rest := by
  simp [collapseNames.eq_def absolute done (n :: rest), hn]

theorem collapseNames_above_root : collapseNames true [] (".." :: rest) = collapseNames true [] rest := by
  simp [collapseNames.eq_def true [] (".." :: rest)]

theorem collapseNames_above (hn : n ≠ "..") :
    collapseNames absolute (n :: done) (".." :: rest) = collapseNames absolute done rest := by
  simp [collapseNames.eq_def absolute (n :: done) (".." :: rest), hn]

theorem collapseNames_append_of_notMem (h : ".." ∉ todo) :
    collapseNames absolute done (todo ++ rest) =
      collapseNames absolute (todo.reverse ++ done) rest := by
  induction todo generalizing done with
  | nil => rfl
  | cons n todo ih =>
    obtain ⟨hn, htodo⟩ : ".." ≠ n ∧ ".." ∉ todo := by simpa using h
    rw [List.cons_append, collapseNames_cons (Ne.symm hn), ih htodo, List.reverse_cons,
      List.append_assoc, List.singleton_append]

theorem collapseNames_of_notMem (h : ".." ∉ todo) :
    collapseNames absolute done todo = done.reverse ++ todo := by
  rw [← List.append_nil todo, collapseNames_append_of_notMem h]
  simp [collapseNames]

end Collapse

/-- As long as no link is met, the names that are left on paper are the location on the way. -/
theorem collapseNames_of_leads (hw : fs.Leads 0 here todo loc) (hhere : ".." ∉ here) :
    collapseNames true here.reverse (todo.filter isName ++ rest) =
      collapseNames true loc.reverse rest := by
  generalize hk : 0 = k at hw
  induction hw with
  | done links here => rfl
  | stay hd hn hw ih =>
    rw [List.filter_cons_of_neg (by simpa [Thinned.isHere_eq_not_isName] using hn)]
    exact ih hhere hk
  | @up links here loc todo hd hw ih =>
    have habove : ".." ∉ here.dropLast := fun hm => hhere (List.dropLast_subset _ hm)
    rw [List.filter_cons_of_pos (by decide), List.cons_append, ← ih habove hk]
    rcases List.eq_nil_or_concat' here with rfl | ⟨dir, n, rfl⟩
    · exact collapseNames_above_root
    · have hn : n ≠ ".." := by
        rintro rfl
        exact hhere (by simp)
      rw [List.reverse_append, List.dropLast_concat]
      exact collapseNames_above hn
  | follow hd hn hu hl he ht hw ih => cases hk
  | @enter links here loc name todo e hd hn hu hl he hk' hw ih =>
    have hname : isName name = true := by simpa [Thinned.isHere_eq_not_isName] using hn
    have hnext : ".." ∉ here ++ [name] := by simp [hhere, Ne.symm hu]
    rw [List.filter_cons_of_pos hname, List.cons_append, collapseNames_cons hu, ← ih hnext hk,
      List.reverse_append]
    rfl

/-- Where the walk of a path begins. -/
def origin (cwd : Location) (path : String) : Location := if path.front = '/' then [] else cwd

/-- No two dots of a path are taken behind a link: up to the last of them the walk meets none. -/
def Straight (fs : FileSystem) (cwd : Location) (path : String) : Prop :=
  ∃ front back mid, split '/' path = front ++ back ∧
    fs.Leads 0 (origin cwd path) front mid ∧ ".." ∉ back

section Absolute
variable {cwd : Location} {path : String}

theorem IsReal.origin (h : fs.IsReal cwd) (path : String) : fs.IsReal (origin cwd path) := by
  rw [FileSystem.origin]
  split
  · exact .nil fs
  · exact h

theorem names_absolute_ofText (hcwd : ".." ∉ cwd) :
    (PosixPath.absolute ⟨.root, cwd⟩ (ofText path)).names =
      collapseNames true (origin cwd path).reverse ((split '/' path).filter isName) := by
  have habs : (PosixPath.append ⟨.root, cwd⟩ (ofText path)).isAbsolute = true :=
    isAbsolute_absolute rfl (ofText path)
  show collapseNames (PosixPath.append ⟨.root, cwd⟩ (ofText path)).isAbsolute []
    (PosixPath.append ⟨.root, cwd⟩ (ofText path)).names = _
  rw [habs, PosixPath.append, origin]
  by_cases hfront : path.front = '/'
  · rw [if_pos (isAbsolute_ofText.2 hfront), if_pos hfront]
    rfl
  · rw [if_neg (mt isAbsolute_ofText.1 hfront), if_neg hfront]
    show collapseNames true [] (cwd ++ (split '/' path).filter isName) = _
    rw [collapseNames_append_of_notMem hcwd, List.append_nil]

/-- A path without two dots behind links leads where its absolute form does, as far as more names
follow. -/
theorem Straight.reaches_iff (hcwd : fs.IsReal cwd) (h : fs.Straight cwd path) {n : String} :
    fs.Reaches [] ((PosixPath.absolute ⟨.root, cwd⟩ (ofText path)).names ++ n :: rest) loc ↔
      fs.Reaches (FileSystem.origin cwd path) (split '/' path ++ n :: rest) loc := by
  obtain ⟨front, back, mid, hsplit, hfront, hback⟩ := h
  have horigin := hcwd.origin path
  have hslash : ∀ m ∈ front, '/' ∉ m.toList := by
    intro m hm
    apply notMem_of_mem_split (s := path)
    rw [hsplit]
    exact List.mem_append_left back hm
  have hmid := horigin.of_leads hfront hslash
  have habove {loc : Location} (h : fs.IsReal loc) : ".." ∉ loc :=
    fun hm => (h.names _ hm).ne_above rfl
  have hnames : (PosixPath.absolute ⟨.root, cwd⟩ (ofText path)).names =
      mid ++ back.filter isName := by
    have hfilter : ".." ∉ back.filter isName := fun hm => hback (List.mem_filter.1 hm).1
    rw [names_absolute_ofText (habove hcwd), hsplit, List.filter_append,
      collapseNames_of_leads hfront (habove horigin), collapseNames_of_notMem hfilter,
      List.reverse_reverse]
  rw [hnames, hsplit, List.append_assoc, List.append_assoc,
    Reaches.append_iff_of_reaches ⟨0, hmid.reached⟩, Reaches.append_iff_of_reaches ⟨0, hfront⟩]
  exact Reaches.filter_isName_iff

theorem reaches_split_toText {p : PosixPath} (habs : p.isAbsolute = true)
    (hp : ∀ n ∈ p.names, IsEntryName n) (hne : p.names ≠ []) :
    fs.Reaches [] (split '/' p.toText) loc ↔ fs.Reaches [] p.names loc := by
  rw [split_toText_of_notMem fun n hn => (hp n hn).slash_notMem]
  obtain ⟨start, names⟩ := p
  obtain ⟨n, ns, rfl⟩ := List.exists_cons_of_ne_nil hne
  cases start with
  | relative => cases habs
  | root =>
    show fs.Reaches [] ([""] ++ n :: ns) loc ↔ fs.Reaches [] ([""].filter isName ++ n :: ns) loc
    exact Reaches.filter_isName_iff.symm
  | doubleRoot =>
    show fs.Reaches [] (["", ""] ++ n :: ns) loc ↔
      fs.Reaches [] (["", ""].filter isName ++ n :: ns) loc
    exact Reaches.filter_isName_iff.symm

/-- Neither the length of a path nor the number of links on its way is more than the system takes. -/
def Fits (fs : FileSystem) (cwd : Location) (path : String) : Prop :=
  ∀ loc, fs.Reaches (origin cwd path) (split '/' path) loc → fs.locate cwd path = .ok loc

theorem reaches_of_locate (h : fs.locate cwd path = .ok loc) :
    fs.Reaches (origin cwd path) (split '/' path) loc := by
  obtain ⟨-, -, -, hw⟩ := locate_eq_ok_iff.1 h
  exact ⟨linkLimit, hw⟩

theorem fits_of_locate (h : fs.locate cwd path = .ok loc) : fs.Fits cwd path := by
  intro loc' h'
  rw [h, (reaches_of_locate h).unique h']

theorem Fits.locate_iff (h : fs.Fits cwd path) :
    fs.locate cwd path = .ok loc ↔ fs.Reaches (origin cwd path) (split '/' path) loc :=
  ⟨reaches_of_locate, h loc⟩

theorem isDirectory_iff :
    fs.isDirectory cwd path = true ↔
      ∃ loc, fs.locate cwd path = .ok loc ∧ fs.hasDirectory loc = true := by
  rw [isDirectory]
  constructor
  · intro h
    split at h
    next hstat =>
      obtain ⟨loc, hl, he⟩ := stat_eq_ok_iff.1 hstat
      exact ⟨loc, hl, by simp [hasDirectory, he]⟩
    next => cases h
  · rintro ⟨loc, hl, hd⟩
    have hstat : fs.stat cwd path = .ok .directory :=
      stat_eq_ok_iff.2 ⟨loc, hl, by simpa [hasDirectory] using hd⟩
    rw [hstat]

end Absolute

end Typeset.FileSystem
