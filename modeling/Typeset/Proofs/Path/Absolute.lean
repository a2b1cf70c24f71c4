import Typeset.Host.ProgramSearch
import Typeset.Proofs.FileSystem.EntryNames

/-!
# Absolute paths of entry names

The text of such a path ends with a slash only at the root, so a name is put behind it with exactly one
slash between. Read again, the text is the path.
-/

namespace Typeset
open Text

namespace Text

theorem joinWith_concat {sep : Char} {ws : List (List Char)} (h : ws ≠ []) (w : List Char) :
    joinWith sep (ws ++ [w]) = joinWith sep ws ++ sep :: w := by
  induction ws with
  | nil => exact absurd rfl h
  | cons v ws ih =>
    rw [List.cons_append, joinWith_cons (by simp)]
    by_cases hws : ws = []
    · simp [hws]
    · rw [ih hws, joinWith_cons hws, List.append_assoc, List.cons_append]

theorem getLast?_joinWith {sep : Char} {ws : List (List Char)} {w : List Char} (hw : w ≠ []) :
    (joinWith sep (ws ++ [w])).getLast? = w.getLast? := by
  by_cases hws : ws = []
  · simp [hws]
  · rw [joinWith_concat hws, List.getLast?_append_of_ne_nil _ (List.cons_ne_nil sep w),
      List.getLast?_cons_of_ne_nil hw]

end Text

namespace PosixPath
open FileSystem

theorem exists_of_names_ne_nil {p : PosixPath} (h : p.names ≠ []) :
    ∃ q n, p = q.child n ∧ p.parent = q ∧ p.name = n := by
  obtain ⟨start, names⟩ := p
  obtain ⟨ns, n, rfl⟩ := List.eq_nil_or_concat' names |>.resolve_left h
  exact ⟨⟨start, ns⟩, n, rfl, by simp [parent], by simp [name]⟩

theorem toText_of_isAbsolute {p : PosixPath} (h : p.isAbsolute = true) :
    ∃ front, (front = "/" ∨ front = "//") ∧
      ∀ names, toText ⟨p.start, names⟩ = front ++ join '/' names := by
  cases hp : p.start with
  | relative => simp [isAbsolute, hp] at h
  | root => exact ⟨"/", .inl rfl, fun _ => rfl⟩
  | doubleRoot => exact ⟨"//", .inr rfl, fun _ => rfl⟩

theorem join_concat {ns : List String} (h : ns ≠ []) (n : String) :
    join '/' (ns ++ [n]) = join '/' ns ++ "/" ++ n := by
  have hne : ns.map String.toList ≠ [] := by simpa using h
  rw [← String.toList_inj]
  simp [join, joinWith_concat hne]

/-- A path of names of entries ends with a slash exactly if it has no names. -/
theorem getLast?_toText {q : PosixPath} (habs : q.isAbsolute = true)
    (hq : ∀ n ∈ q.names, IsEntryName n) : q.toText.toList.getLast? = some '/' ↔ q.names = [] := by
  obtain ⟨front, hfront, htext⟩ := toText_of_isAbsolute habs
  have hlast : front.toList.getLast? = some '/' := by
    rcases hfront with rfl | rfl <;> decide
  rw [show q.toText = front ++ join '/' q.names from htext q.names, String.toList_append]
  rcases List.eq_nil_or_concat' q.names with hn | ⟨ms, m, hn⟩
  · simp [hn, join, hlast]
  · have hm : IsEntryName m := hq m (by simp [hn])
    have hne : m.toList ≠ [] := fun h => hm.ne_empty (String.toList_eq_nil_iff.1 h)
    have hjoin : (join '/' q.names).toList.getLast? = m.toList.getLast? := by
      rw [hn, join, List.map_append, List.map_singleton, String.toList_ofList,
        getLast?_joinWith hne]
    have hend : (join '/' q.names).toList.getLast? ≠ some '/' := by
      rw [hjoin]
      exact fun h => hm.slash_notMem (List.mem_of_getLast? h)
    have hempty : (join '/' q.names).toList ≠ [] := by
      intro h
      rw [h, List.getLast?_nil, eq_comm, List.getLast?_eq_none_iff] at hjoin
      exact hne hjoin
    rw [List.getLast?_append_of_ne_nil _ hempty]
    exact iff_of_false hend (by simp [hn])

theorem joinPath_child {q : PosixPath} {n : String} (habs : q.isAbsolute = true)
    (hq : ∀ m ∈ q.names, IsEntryName m) (hn : IsEntryName n) :
    Host.joinPath q.toText n = (q.child n).toText := by
  obtain ⟨front, hfront, htext⟩ := toText_of_isAbsolute habs
  have hne : q.toText ≠ "" := by
    rw [show q.toText = front ++ join '/' q.names from htext q.names]
    rcases hfront with rfl | rfl <;> simp [← String.toList_inj]
  have hslash : n.front ≠ '/' := by
    rw [Ne, front_eq_slash_iff]
    exact fun h => hn.slash_notMem (List.mem_of_mem_head? h)
  rw [Host.joinPath, if_neg (not_or.2 ⟨hne, hslash⟩)]
  have hchild : (q.child n).toText = front ++ join '/' (q.names ++ [n]) := htext _
  have hparent : q.toText = front ++ join '/' q.names := htext _
  split
  next hlast =>
    have hnames := (getLast?_toText habs hq).1 hlast
    rw [hchild, hparent, hnames]
    simp [join]
  next hlast =>
    have hnames := mt (getLast?_toText habs hq).2 hlast
    rw [hchild, hparent, join_concat hnames]
    simp only [String.append_assoc]

section Reading
variable {p : PosixPath} (hp : ∀ n ∈ p.names, IsEntryName n)
include hp

theorem head?_join_ne_slash : (join '/' p.names).toList.head? ≠ some '/' := by
  cases hn : p.names with
  | nil => simp [join]
  | cons n ns =>
    have hname : IsEntryName n := hp n (by simp [hn])
    obtain ⟨c, cs, hc⟩ := List.exists_cons_of_ne_nil fun h => hname.ne_empty (String.toList_eq_nil_iff.1 h)
    have hslash : c ≠ '/' := by
      rintro rfl
      exact hname.slash_notMem (by simp [hc])
    cases ns with
    | nil => simp [join, hc, hslash]
    | cons m ms => simp [join, joinWith, hc, hslash]

theorem ofText_toText (habs : p.isAbsolute = true) : ofText p.toText = p := by
  have hfilter : p.names.filter isName = p.names :=
    List.filter_eq_self.2 fun n hn => by simp [isName, (hp n hn).ne_empty, (hp n hn).ne_here]
  have hempty : isName "" = false := rfl
  have hhead := head?_join_ne_slash hp
  have hsplit := split_toText_of_notMem fun n hn => (hp n hn).slash_notMem
  obtain ⟨start, names⟩ := p
  have hnames : (pieces ⟨start, names⟩).filter isName = names := by
    cases start with
    | relative => cases habs
    | root => by_cases hn : names = [] <;> simp_all [pieces]
    | doubleRoot => by_cases hn : names = [] <;> simp_all [pieces]
  have hstart : startOf (toText ⟨start, names⟩) = start := by
    simp only at hhead
    cases start with
    | relative => cases habs
    | root => cases hl : (join '/' names).toList <;> simp_all [startOf, toText]
    | doubleRoot => cases hl : (join '/' names).toList <;> simp_all [startOf, toText]
  rw [ofText, hsplit, hstart, hnames]

end Reading

end PosixPath
end Typeset
