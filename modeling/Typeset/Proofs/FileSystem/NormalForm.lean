import Mathlib.Data.String.Basic
import Typeset.FileSystem.Access
import Typeset.Path.Posix

/-!
# The normal form of a path

Reading a text as a path drops empty names and single dots. A walk that arrives passes such names by,
so it arrives at the same place without them: what a text names is what its normal form names. The
converse fails, as a slash behind the name of a file is dropped too.
-/

namespace Typeset

open Text

theorem front_eq_slash_iff (s : String) : s.front = '/' ↔ s.toList.head? = some '/' := by
  rw [String.front_eq, String.front?_eq]
  cases s.toList with
  | nil => simp
  | cons c rest => simp

theorem head?_split_eq_empty_iff {s : String} (hs : s ≠ "") :
    (split '/' s).head? = some "" ↔ s.front = '/' := by
  rw [front_eq_slash_iff]
  cases hl : s.toList with
  | nil => exact absurd (String.toList_eq_nil_iff.1 hl) hs
  | cons c rest =>
    by_cases hc : c = '/'
    · simp [split, hl, splitOn, hc]
    · cases hr : splitOn '/' rest with
      | nil => exact absurd hr (splitOn_ne_nil _ _)
      | cons w ws => simp [split, hl, splitOn, hc, hr]

namespace PosixPath

def pieces (p : PosixPath) : List String :=
  let names (empty : String) := if p.names = [] then [empty] else p.names
  match p.start with
  | .relative => names "."
  | .root => "" :: names ""
  | .doubleRoot => "" :: "" :: names ""

theorem toText_eq_join (p : PosixPath) : p.toText = join '/' p.pieces := by
  obtain ⟨start, names⟩ := p
  cases names with
  | nil => cases start <;> rfl
  | cons n ns =>
    cases start <;> simp [toText, pieces, join, joinWith_cons, ← String.toList_inj]

variable (s : String)

theorem isName_of_mem_names {n : String} (h : n ∈ (ofText s).names) :
    n ≠ "" ∧ FileSystem.isHere n = false ∧ '/' ∉ n.toList := by
  obtain ⟨hm, hn⟩ := List.mem_filter.1 h
  have hs := notMem_of_mem_split hm
  simp only [isName, Bool.and_eq_true, decide_eq_true_eq] at hn
  exact ⟨hn.1, by simp [FileSystem.isHere, hn.1, hn.2], hs⟩

theorem split_toText_of_notMem {p : PosixPath} (hp : ∀ n ∈ p.names, '/' ∉ n.toList) :
    split '/' p.toText = p.pieces := by
  rw [toText_eq_join]
  apply split_join
  · cases hs : p.start <;> simp [pieces, hs]
    split <;> simp_all
  · intro n hn
    have hname : n = "" ∨ n = "." ∨ n ∈ p.names := by
      simp only [pieces] at hn
      split at hn <;> split at hn <;> grind
    rcases hname with rfl | rfl | hname
    · decide
    · decide
    · exact hp n hname

theorem split_toText : split '/' (ofText s).toText = (ofText s).pieces :=
  split_toText_of_notMem fun _ hn => (isName_of_mem_names s hn).2.2

theorem start_ofText_eq_relative_iff : (ofText s).start = .relative ↔ s.toList.head? ≠ some '/' := by
  simp only [ofText, startOf]
  cases hl : s.toList with
  | nil => simp
  | cons c rest =>
    by_cases hc : c = '/'
    · subst hc
      split <;> simp_all
    · simp [hc]

theorem isAbsolute_ofText {text : String} :
    (ofText text).isAbsolute = true ↔ text.front = '/' := by
  rw [isAbsolute, decide_eq_true_iff, Ne, start_ofText_eq_relative_iff, not_not,
    front_eq_slash_iff]

/-- Only a start gives a text an empty piece in front. -/
theorem head?_pieces_ofText :
    (ofText s).pieces.head? = some "" ↔ (ofText s).start ≠ .relative := by
  cases hp : (ofText s).start with
  | relative =>
    cases hn : (ofText s).names with
    | nil => simp [pieces, hp, hn]
    | cons n ns =>
      have hmem : n ∈ (ofText s).names := by simp [hn]
      have hne := (isName_of_mem_names s hmem).1
      simp [pieces, hp, hn, hne]
  | root => simp [pieces, hp]
  | doubleRoot => simp [pieces, hp]

theorem toText_ofText_ne_empty : (ofText s).toText ≠ "" := by
  intro he
  have hs := split_toText s
  rw [he] at hs
  have hh : (ofText s).pieces = [""] := hs.symm
  have hr := (head?_pieces_ofText s).1 (by rw [hh]; rfl)
  cases hp : (ofText s).start with
  | relative => exact hr hp
  | root => cases hn : (ofText s).names <;> simp [pieces, hp, hn] at hh
  | doubleRoot => cases hn : (ofText s).names <;> simp [pieces, hp, hn] at hh

/-- A text and its normal form start at the same place. -/
theorem front_toText_ofText : (ofText s).toText.front = '/' ↔ s.front = '/' := by
  rw [← head?_split_eq_empty_iff (toText_ofText_ne_empty s), split_toText, head?_pieces_ofText,
    Ne, start_ofText_eq_relative_iff, not_not, front_eq_slash_iff]

theorem split_of_slash {s : String} {rest : List Char} (h : s.toList = '/' :: rest) :
    split '/' s = "" :: split '/' (String.ofList rest) := by
  simp [split, h, splitOn]

/-- Behind the start, the pieces of a normal form are the names among the pieces of the text. -/
theorem exists_pieces_ofText : ∃ front behind dot, split '/' s = front ++ behind ∧ behind ≠ [] ∧
    FileSystem.isHere dot = true ∧ (ofText s).names = behind.filter isName ∧
    (ofText s).pieces = front ++ if (ofText s).names = [] then [dot] else (ofText s).names := by
  have hempty : isName "" = false := rfl
  cases hp : (ofText s).start with
  | relative =>
    refine ⟨[], split '/' s, ".", rfl, split_ne_nil _ _, rfl, rfl, ?_⟩
    simp [pieces, hp]
  | root =>
    have hh : s.toList.head? = some '/' := by
      by_contra hn
      rw [(start_ofText_eq_relative_iff s).2 hn] at hp
      cases hp
    obtain ⟨rest, hr⟩ := List.head?_eq_some_iff.1 hh
    refine ⟨[""], split '/' (String.ofList rest), "", split_of_slash hr, split_ne_nil _ _, rfl, ?_, ?_⟩
    · simp [ofText, split_of_slash hr, hempty]
    · simp [pieces, hp]
  | doubleRoot =>
    obtain ⟨rest, hr⟩ : ∃ rest, s.toList = '/' :: '/' :: rest := by
      simp only [ofText, startOf] at hp
      split at hp <;> simp_all
    have hs : split '/' s = "" :: "" :: split '/' (String.ofList rest) := by
      rw [split_of_slash hr, split_of_slash String.toList_ofList]
    refine ⟨["", ""], split '/' (String.ofList rest), "", hs, split_ne_nil _ _, rfl, ?_, ?_⟩
    · simp [ofText, hs, hempty]
    · simp [pieces, hp]

variable {s}

/-- A normal form without names is a dot or slashes. -/
theorem toText_of_names_eq_nil {p : PosixPath} (h : p.names = []) :
    p.toText = "." ∨ p.toText = "/" ∨ p.toText = "//" := by
  cases hp : p.start with
  | relative => exact .inl (by simp [toText, hp, h])
  | root => exact .inr (.inl (by simp [toText, hp, h, join]))
  | doubleRoot => exact .inr (.inr (by simp [toText, hp, h, join]))

theorem toText_ofText_sublist (h : (ofText s).names ≠ []) :
    (ofText s).toText.toList.Sublist s.toList := by
  obtain ⟨front, behind, dot, hs, -, -, hn, hp⟩ := exists_pieces_ofText s
  have hsub : (ofText s).pieces.Sublist (split '/' s) := by
    rw [hp, hs, if_neg h, hn]
    exact (List.Sublist.refl front).append List.filter_sublist
  have hjoin := joinWith_sublist '/' (hsub.map String.toList)
  rw [toText_eq_join, join, String.toList_ofList]
  refine hjoin.trans ?_
  rw [← String.toList_ofList (l := joinWith '/' _), ← join, join_split]

end PosixPath

namespace FileSystem
open PosixPath

/-- Names that lead nowhere are dropped, or written in another way. -/
inductive Thinned : List String → List String → Prop
  | nil : Thinned [] []
  | drop {n : String} {todo rest : List String} (hn : isHere n = true) (h : Thinned todo rest) :
      Thinned (n :: todo) rest
  | change {m n : String} {todo rest : List String} (hm : isHere m = true) (hn : isHere n = true)
      (h : Thinned todo rest) : Thinned (m :: todo) (n :: rest)
  | keep (n : String) {todo rest : List String} (h : Thinned todo rest) :
      Thinned (n :: todo) (n :: rest)

namespace Thinned

theorem append (front : List String) {todo rest : List String} (h : Thinned todo rest) :
    Thinned (front ++ todo) (front ++ rest) := by
  induction front with
  | nil => exact h
  | cons n front ih => exact .keep n ih

theorem isHere_eq_not_isName (n : String) : isHere n = !isName n := by
  by_cases he : n = "" <;> by_cases hd : n = "." <;> simp [isHere, isName, he, hd]

theorem filter_isName (todo : List String) : Thinned todo (todo.filter isName) := by
  induction todo with
  | nil => exact .nil
  | cons n todo ih =>
    cases hn : isName n with
    | true =>
      rw [List.filter_cons_of_pos hn]
      exact .keep n ih
    | false =>
      rw [List.filter_cons_of_neg (by simp [hn])]
      exact .drop (by simp [isHere_eq_not_isName, hn]) ih

/-- Where all names are dropped, one of them may be left. -/
theorem dot {todo : List String} {n : String} (hne : todo ≠ []) (h : todo.filter isName = [])
    (hn : isHere n = true) : Thinned todo [n] := by
  cases todo with
  | nil => exact absurd rfl hne
  | cons m todo =>
    have hall : Thinned (m :: todo) [] := h ▸ filter_isName (m :: todo)
    cases hall with
    | drop hm hrest => exact .change hm hn hrest

theorem pieces_ofText (s : String) : Thinned (split '/' s) (ofText s).pieces := by
  obtain ⟨front, behind, dot, hs, hne, hd, hn, hp⟩ := exists_pieces_ofText s
  rw [hs, hp]
  apply append
  split
  next he => exact .dot hne (hn ▸ he) hd
  next => exact hn ▸ filter_isName behind

end Thinned

inductive Leads (fs : FileSystem) : Nat → Location → List String → Location → Prop
  | done (links : Nat) (here : Location) : Leads fs links here [] here
  | stay {links : Nat} {here loc : Location} {name : String} {rest : List String}
      (hd : fs.hasDirectory here = true) (hn : isHere name = true)
      (h : Leads fs links here rest loc) : Leads fs links here (name :: rest) loc
  | up {links : Nat} {here loc : Location} {rest : List String}
      (hd : fs.hasDirectory here = true) (h : Leads fs links here.dropLast rest loc) :
      Leads fs links here (".." :: rest) loc
  | follow {links : Nat} {here loc : Location} {name target : String} {rest : List String}
      (hd : fs.hasDirectory here = true) (hn : isHere name = false) (hu : name ≠ "..")
      (hl : name.utf8ByteSize ≤ nameLimit) (he : fs.entry? (here ++ [name]) = some (.link target))
      (ht : target ≠ "")
      (h : Leads fs links (if target.front = '/' then [] else here) (split '/' target ++ rest) loc) :
      Leads fs (links + 1) here (name :: rest) loc
  | enter {links : Nat} {here loc : Location} {name : String} {rest : List String} {e : Entry}
      (hd : fs.hasDirectory here = true) (hn : isHere name = false) (hu : name ≠ "..")
      (hl : name.utf8ByteSize ≤ nameLimit) (he : fs.entry? (here ++ [name]) = some e)
      (hk : ∀ target, e ≠ .link target) (h : Leads fs links (here ++ [name]) rest loc) :
      Leads fs links here (name :: rest) loc

theorem leads_of_walk {fs : FileSystem} {links : Nat} {here : Location} {todo : List String}
    {loc : Location} (h : fs.walk links here todo = .ok loc) : fs.Leads links here todo loc := by
  fun_induction walk fs links here todo with
  | case1 links here =>
    cases h
    exact .done links _
  | case3 links here name rest hd hn ih => exact .stay (by simpa using hd) hn (ih h)
  | case4 links here rest hd hn ih => exact .up (by simpa using hd) (ih h)
  | case9 here name rest hd hn hu hl target he links ht ih =>
    exact .follow (by simpa using hd) (by simpa using hn) hu (by simpa using hl) he ht (ih h)
  | case10 links here name rest hd hn hu hl e hk he ih =>
    exact .enter (by simpa using hd) (by simpa using hn) hu (by simpa using hl) he hk (ih h)
  | _ => cases h

theorem Leads.walk_eq {fs : FileSystem} {links : Nat} {here : Location} {todo : List String}
    {loc : Location} (h : fs.Leads links here todo loc) : fs.walk links here todo = .ok loc := by
  induction h with
  | done links here => exact walk_nil fs links here
  | stay hd hn h ih => simpa [walk, hd, hn] using ih
  | up hd h ih => simpa [walk, hd, isHere] using ih
  | follow hd hn hu hl he ht h ih =>
    simpa [walk, hd, hn, hu, Nat.not_lt.2 hl, he, ht] using ih
  | @enter links here loc name rest e hd hn hu hl he hk h ih =>
    cases e with
    | link target => exact absurd rfl (hk target)
    | _ => simpa [walk, hd, hn, hu, Nat.not_lt.2 hl, he] using ih

-- The induction is on the arrival. The names of a link's target are walked as they stand, only those
-- behind the link are thinned.
theorem Leads.thinned {fs : FileSystem} {links : Nat} {here loc : Location} {todo rest : List String}
    (h : fs.Leads links here todo loc) (ht : Thinned todo rest) : fs.Leads links here rest loc := by
  induction h generalizing rest with
  | done links here =>
    cases ht
    exact .done links here
  | stay hd hn h ih =>
    cases ht with
    | drop _ ht => exact ih ht
    | change _ hn' ht => exact .stay hd hn' (ih ht)
    | keep _ ht => exact .stay hd hn (ih ht)
  | up hd h ih =>
    cases ht with
    | drop hn _ => cases hn
    | change hn _ _ => cases hn
    | keep _ ht => exact .up hd (ih ht)
  | follow hd hn hu hl he htarget h ih =>
    cases ht with
    | drop hn' _ => rw [hn] at hn'; cases hn'
    | change hn' _ _ => rw [hn] at hn'; cases hn'
    | keep _ ht => exact .follow hd hn hu hl he htarget (ih (ht.append _))
  | enter hd hn hu hl he hk h ih =>
    cases ht with
    | drop hn' _ => rw [hn] at hn'; cases hn'
    | change hn' _ _ => rw [hn] at hn'; cases hn'
    | keep _ ht => exact .enter hd hn hu hl he hk (ih ht)

variable {fs : FileSystem} {cwd loc : Location} {path : String}

theorem locate_eq_ok_iff : fs.locate cwd path = .ok loc ↔
    '\x00' ∉ path.toList ∧ path ≠ "" ∧ path.utf8ByteSize ≤ pathLimit ∧
      fs.Leads linkLimit (if path.front = '/' then [] else cwd) (split '/' path) loc := by
  rw [locate]
  constructor
  · intro h
    split at h
    · cases h
    next hz =>
      split at h
      · cases h
      next he =>
        split at h
        · cases h
        next hl =>
          refine ⟨hz, he, Nat.not_lt.1 hl, leads_of_walk ?_⟩
          cases hw : fs.walk linkLimit (if path.front = '/' then [] else cwd) (split '/' path) with
          | error e =>
            rw [hw] at h
            cases h
          | ok l =>
            rw [hw] at h
            cases h
            rfl
  · rintro ⟨hz, he, hl, h⟩
    rw [if_neg hz, if_neg he, if_neg (Nat.not_lt.2 hl), h.walk_eq]
    rfl

/-- What a text names is what its normal form names. -/
theorem locate_ofText (h : fs.locate cwd path = .ok loc) :
    fs.locate cwd (ofText path).toText = .ok loc := by
  obtain ⟨hz, he, hl, hw⟩ := locate_eq_ok_iff.1 h
  -- a normal form is never longer than the text, so the limits hold for it as well
  have hpass : '\x00' ∉ (ofText path).toText.toList ∧
      (ofText path).toText.utf8ByteSize ≤ pathLimit := by
    by_cases hn : (ofText path).names = []
    · rcases toText_of_names_eq_nil hn with ht | ht | ht <;> rw [ht] <;> decide
    · have hsub := toText_ofText_sublist hn
      refine ⟨fun hm => hz (hsub.subset hm), ?_⟩
      rw [← String.utf8Len_toList] at hl ⊢
      exact (String.utf8Len_le_of_sublist hsub).trans hl
  refine locate_eq_ok_iff.2 ⟨hpass.1, toText_ofText_ne_empty path, hpass.2, ?_⟩
  simp only [front_toText_ofText, split_toText]
  exact hw.thinned (.pieces_ofText path)

/-- A path from the root names the same from everywhere. -/
theorem locate_of_front (h : path.front = '/') (dir : Location) :
    fs.locate dir path = fs.locate cwd path := by
  rw [locate, locate, if_pos h, if_pos h]

/-- Where there is nothing by the first name of a path, the path names no regular file. -/
theorem isFile_of_missing {name : String} {rest : List String} (hcwd : fs.hasDirectory cwd = true)
    (hpath : '\x00' ∉ path.toList ∧ path ≠ "" ∧ path.utf8ByteSize ≤ pathLimit ∧ path.front ≠ '/')
    (hsplit : split '/' path = name :: rest)
    (hname : isHere name = false ∧ name ≠ ".." ∧ name.utf8ByteSize ≤ nameLimit)
    (hmissing : fs.entry? (cwd ++ [name]) = none) : fs.isFile cwd path = .ok false := by
  obtain ⟨hz, hne, hlimit, hfront⟩ := hpath
  obtain ⟨hhere, habove, hlength⟩ := hname
  have hwalk : fs.walk linkLimit cwd (name :: rest) = .error .noEntry := by
    simp [walk, hcwd, hhere, habove, Nat.not_lt.2 hlength, hmissing]
  rw [isFile, stat, locate, if_neg hz, if_neg hne, if_neg (Nat.not_lt.2 hlimit), if_neg hfront,
    hsplit, hwalk]
  rfl

end FileSystem
end Typeset
