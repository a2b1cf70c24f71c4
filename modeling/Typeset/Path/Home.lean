import Typeset.Text.Blank
import Typeset.Text.Encoding

/-!
Home directories. A tilde at the front of a path, alone or with the name of a user, stands for a
home directory; the slashes at the end of that directory are dropped.
-/

namespace Typeset

open Text

/-- Where the home directories are: that of the current user, and those of other users by name. -/
structure Homes where
  own : Option String
  others : List (String × String)
  encoding : Encoding := .utf8

namespace Homes

def empty : Homes where
  own := none
  others := []

def directory? (h : Homes) (user : String) : Option String :=
  if user = "" then h.own else h.others.lookup user

/-- The path with its tilde expanded; it stays as it is without a directory to put in its place. -/
def expand (h : Homes) (s : String) : Except NameFlaw String :=
  match s.toList with
  | '~' :: rest =>
    let user := String.ofList (rest.takeWhile (· ≠ '/'))
    match h.encoding.flaw? user with
    | some f => .error f
    | none => match h.directory? user with
      | none => .ok s
      | some d =>
        let path := dropEndWhile (· == '/') d.toList ++ rest.dropWhile (· ≠ '/')
        .ok (if path.isEmpty then "/" else String.ofList path)
  | _ => .ok s

/-- The path can be expanded: its user has a name that the system can be asked about. -/
def Expands (h : Homes) (s : String) : Prop := ∃ expanded, h.expand s = .ok expanded

theorem expand_of_no_tilde (h : Homes) {s : String} (hs : s.toList.head? ≠ some '~') :
    h.expand s = .ok s := by
  unfold expand
  split <;> simp_all

theorem exists_flaw?_of_expand_eq_error {h : Homes} {s : String} {f : NameFlaw}
    (hx : h.expand s = .error f) : ∃ user, h.encoding.flaw? user = some f := by
  rw [expand] at hx
  split at hx
  next rest hs =>
    simp only at hx
    split at hx
    next g hg =>
      cases hx
      exact ⟨_, hg⟩
    next => split at hx <;> cases hx
  next => cases hx

end Homes
end Typeset
