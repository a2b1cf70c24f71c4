import Typeset.Text.Split

/-!
Paths with slashes. A path is where it starts and the names that follow; empty names and single dots
are dropped when a text is read, double dots are kept. Exactly two slashes in front are a start of
their own. `collapse` removes double dots without looking at any file.
-/

namespace Typeset

open Text

inductive PathStart
  | relative
  | root
  | doubleRoot
  deriving DecidableEq

structure PosixPath where
  start : PathStart
  names : List String
  deriving DecidableEq

namespace PosixPath

def isName (s : String) : Bool := s ≠ "" && s ≠ "."

def startOf (s : String) : PathStart :=
  match s.toList with
  | '/' :: '/' :: '/' :: _ => .root
  | '/' :: '/' :: _ => .doubleRoot
  | '/' :: _ => .root
  | _ => .relative

def ofText (s : String) : PosixPath := ⟨startOf s, (split '/' s).filter isName⟩

def toText (p : PosixPath) : String :=
  match p.start, p.names with
  | .relative, [] => "."
  | .relative, names => join '/' names
  | .root, names => "/" ++ join '/' names
  | .doubleRoot, names => "//" ++ join '/' names

/-- Whether the path does not depend on a working directory. -/
def isAbsolute (p : PosixPath) : Bool := p.start ≠ .relative

def name (p : PosixPath) : String := p.names.getLast?.getD ""

def parent (p : PosixPath) : PosixPath := { p with names := p.names.dropLast }

def child (p : PosixPath) (n : String) : PosixPath := { p with names := p.names ++ [n] }

def append (p q : PosixPath) : PosixPath :=
  if q.isAbsolute then q else { p with names := p.names ++ q.names }

instance : Append PosixPath := ⟨append⟩

/-- The names after removing `..` together with the name before it; `done` holds what is kept,
nearest first. Above an absolute start there is nothing. -/
def collapseNames (absolute : Bool) : (done todo : List String) → List String
  | done, [] => done.reverse
  | done, n :: rest =>
    if n ≠ ".." then collapseNames absolute (n :: done) rest
    else match done with
      | [] => collapseNames absolute (if absolute then [] else [n]) rest
      | d :: ds =>
        if d = ".." then collapseNames absolute (n :: d :: ds) rest
        else collapseNames absolute ds rest

/-- The path without `..`, as far as that can be seen from its text. -/
def collapse (p : PosixPath) : PosixPath := { p with names := collapseNames p.isAbsolute [] p.names }

/-- The absolute path without `..` that `p` writes when seen from `cwd`. -/
def absolute (cwd p : PosixPath) : PosixPath := (cwd ++ p).collapse

/-- The end of the last name from its last dot; empty if the dot is the first or last character. -/
def suffix (p : PosixPath) : String :=
  let reversed := p.name.toList.reverse
  let after := reversed.takeWhile (· ≠ '.')
  match reversed.dropWhile (· ≠ '.') with
  | _ :: _ :: _ => if after.isEmpty then "" else String.ofList ('.' :: after.reverse)
  | _ => ""

@[simp] theorem names_child (p : PosixPath) (n : String) : (p.child n).names = p.names ++ [n] := rfl

@[simp] theorem start_child (p : PosixPath) (n : String) : (p.child n).start = p.start := rfl

@[simp] theorem parent_child (p : PosixPath) (n : String) : (p.child n).parent = p := by
  simp [parent, child]

@[simp] theorem name_child (p : PosixPath) (n : String) : (p.child n).name = n := by
  simp [name]

@[simp] theorem start_collapse (p : PosixPath) : p.collapse.start = p.start := rfl

/-- A name at the end stays where it is when double dots are removed. -/
theorem collapseNames_concat (absolute : Bool) {n : String} (hn : n ≠ "..")
    (done todo : List String) :
    collapseNames absolute done (todo ++ [n]) = collapseNames absolute done todo ++ [n] := by
  induction todo generalizing done with
  | nil => simp [collapseNames, hn]
  | cons m todo ih =>
    simp only [List.cons_append, collapseNames.eq_def absolute done (m :: _)]
    split
    · exact ih (m :: done)
    · cases done with
      | nil => exact ih _
      | cons d ds =>
        simp only
        split
        · exact ih (m :: d :: ds)
        · exact ih ds

theorem isAbsolute_absolute {cwd : PosixPath} (h : cwd.isAbsolute = true) (p : PosixPath) :
    (absolute cwd p).isAbsolute = true := by
  show (append cwd p).isAbsolute = true
  unfold append
  split
  · assumption
  · exact h

theorem absolute_child (cwd p : PosixPath) {n : String} (hn : n ≠ "..") :
    absolute cwd (p.child n) = (absolute cwd p).child n := by
  have happ : cwd ++ p.child n = (cwd ++ p).child n := by
    show append cwd (p.child n) = (append cwd p).child n
    by_cases hp : p.start = .relative <;> simp [append, isAbsolute, hp, child]
  show (cwd ++ p.child n).collapse = (cwd ++ p).collapse.child n
  rw [happ]
  exact congrArg (PosixPath.mk _) (collapseNames_concat _ hn [] _)

end PosixPath
end Typeset
