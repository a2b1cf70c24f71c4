import Typeset.Text.Split

/-!
The encoding of the system's names. The system can be asked about a text only if each of its characters
has a code and none of them is NUL.
-/

namespace Typeset

open Text

inductive NameFlaw
  | nul
  | unencodable
  deriving DecidableEq

def NameFlaw.message : NameFlaw → String
  | .nul => "embedded null byte"
  | .unencodable => "a character has no code in the encoding of the system"

/-- An encoding, as the characters that it has codes for. -/
structure Encoding where
  knows : Char → Bool

namespace Encoding

/-- UTF-8 has a code for every character. -/
def utf8 : Encoding := ⟨fun _ => true⟩

def encodes (e : Encoding) (s : String) : Bool := s.toList.all e.knows

def flaw? (e : Encoding) (s : String) : Option NameFlaw :=
  if !e.encodes s then some .unencodable else if '\x00' ∈ s.toList then some .nul else none

/-- A path is asked about name by name, so the first name that has a flaw counts. -/
def pathFlaw? (e : Encoding) (path : String) : Option NameFlaw := (split '/' path).findSome? e.flaw?

@[simp] theorem encodes_utf8 (s : String) : utf8.encodes s = true := by
  simp [encodes, utf8]

theorem flaw?_utf8 (s : String) : utf8.flaw? s = if '\x00' ∈ s.toList then some .nul else none := by
  simp [flaw?]

theorem eq_nul_of_flaw?_utf8 {s : String} {f : NameFlaw} (h : utf8.flaw? s = some f) : f = .nul := by
  rw [flaw?_utf8] at h
  split at h
  · exact (Option.some.inj h).symm
  · cases h

theorem pathFlaw?_eq_none_iff {e : Encoding} {path : String} :
    e.pathFlaw? path = none ↔ ∀ name ∈ split '/' path, e.flaw? name = none := by
  simp [pathFlaw?]

theorem pathFlaw?_utf8_eq_none_iff {path : String} :
    utf8.pathFlaw? path = none ↔ '\x00' ∉ path.toList := by
  have hslash : '\x00' ≠ '/' := by decide
  rw [pathFlaw?_eq_none_iff, ← exists_mem_split_iff hslash]
  simp [flaw?_utf8]

theorem pathFlaw?_utf8_eq_some_iff {path : String} {f : NameFlaw} :
    utf8.pathFlaw? path = some f ↔ f = .nul ∧ '\x00' ∈ path.toList := by
  cases hp : utf8.pathFlaw? path with
  | none =>
    have hn : '\x00' ∉ path.toList := pathFlaw?_utf8_eq_none_iff.1 hp
    simp [hn]
  | some g =>
    obtain ⟨name, -, hg⟩ := List.exists_of_findSome?_eq_some hp
    obtain rfl := eq_nul_of_flaw?_utf8 hg
    have hn : '\x00' ∈ path.toList := by
      apply Decidable.byContradiction
      intro hn
      rw [pathFlaw?_utf8_eq_none_iff.2 hn] at hp
      cases hp
    simp [hn, eq_comm]

@[simp] theorem flaw?_empty (e : Encoding) : e.flaw? "" = none := by
  simp [flaw?, encodes]

end Encoding
end Typeset
