import Typeset.FileSystem.Resolve
import Typeset.Path.Posix

/-!
Real paths. `realNames` replaces every link on the way by what it leads to; names that do not exist
are kept, so the answer is defined for every path. In a circle of links it stops at the link that
closes the circle and appends the rest of the path as it stands; a rest that begins with a slash,
which follows a doubled slash, is an absolute path and stands for itself.
-/

namespace Typeset.FileSystem

open Text

/-- A place on the way: names seen from the root, or from so many directories above the working
directory. -/
structure Waypoint where
  above : Option Nat
  names : Location
  deriving DecidableEq

namespace Waypoint

def root : Waypoint := ⟨none, []⟩

def here : Waypoint := ⟨some 0, []⟩

def parent (w : Waypoint) : Waypoint :=
  if w.names = [] then ⟨w.above.map (· + 1), []⟩ else ⟨w.above, w.names.dropLast⟩

def enter (w : Waypoint) (name : String) : Waypoint := ⟨w.above, w.names ++ [name]⟩

def location (cwd : Location) (w : Waypoint) : Location :=
  match w.above with
  | none => w.names
  | some n => cwd.take (cwd.length - n) ++ w.names

def path (w : Waypoint) : PosixPath :=
  match w.above with
  | none => ⟨.root, w.names⟩
  | some n => ⟨.relative, List.replicate n ".." ++ w.names⟩

@[simp] theorem location_here (cwd : Location) : here.location cwd = cwd := by
  simp [location, here]

@[simp] theorem location_root (cwd : Location) : root.location cwd = [] := rfl

theorem location_enter (cwd : Location) (w : Waypoint) (name : String) :
    (w.enter name).location cwd = w.location cwd ++ [name] := by
  unfold location enter; split <;> simp_all

end Waypoint

/-- Links met so far: what each leads to, or nothing while that is being found out. Links are known
by the way that they were reached on, so one may be met twice. -/
abbrev LinkMemory := List (Waypoint × Option Waypoint)

/-- How far a real path has been worked out: completely, or up to a circle of links, with the path
that is left there. -/
inductive RealNames
  | complete (found : Waypoint) (memory : LinkMemory)
  | circle (left : PosixPath)

/-- A path followed by the text whose pieces between slashes are `rest`. -/
def followedBy (p : PosixPath) (rest : List String) : PosixPath :=
  p ++ PosixPath.ofText (join '/' rest)

/-- Works out the real path of the names in `todo`, seen from `w`. -/
def realNames (fs : FileSystem) (cwd : Location) : (depth : Nat) → (w : Waypoint) →
    (todo : List String) → LinkMemory → RealNames
  | _, w, [], memory => .complete w memory
  | depth, w, name :: rest, memory =>
    if isHere name then realNames fs cwd depth w rest memory
    else if name = ".." then realNames fs cwd depth w.parent rest memory
    else
      let next := w.enter name
      match fs.entry? (next.location cwd) with
      | some (.link target) =>
        match memory.lookup next with
        | some (some known) => realNames fs cwd depth known rest memory
        | some none => .circle (followedBy next.path rest)
        | none =>
          match depth with
          | 0 => .circle (followedBy next.path rest)
          | depth + 1 =>
            match realNames fs cwd depth (if target.front = '/' then .root else w)
                (split '/' target) ((next, none) :: memory) with
            | .complete found memory =>
              realNames fs cwd (depth + 1) found rest ((next, some found) :: memory)
            | .circle left => .circle (followedBy left rest)
      | _ => realNames fs cwd depth next rest memory
termination_by depth _ todo _ => (depth, todo.length)

def linkCount (fs : FileSystem) : Nat :=
  (fs.entries.filter fun e => match e.2 with | .link _ => true | _ => false).length

/-- Works out the real path of a path, seen from `cwd`. A link may be met once from the root, and once
from each directory between the root and `cwd`. -/
def realNamesOf (fs : FileSystem) (cwd : Location) (path : String) : RealNames :=
  let start := if path.front = '/' then Waypoint.root else .here
  fs.realNames cwd ((cwd.length + 2) * fs.linkCount + 1) start (split '/' path) []

def realPath (fs : FileSystem) (cwd : Location) (path : String) : PosixPath :=
  match fs.realNamesOf cwd path with
  | .complete w _ => ⟨.root, w.location cwd⟩
  | .circle left => PosixPath.absolute ⟨.root, cwd⟩ left

/-- Whether the real path of a path takes its beginning from `cwd`. -/
def isSeenFrom (fs : FileSystem) (cwd : Location) (path : String) : Bool :=
  match fs.realNamesOf cwd path with
  | .complete w _ => w.above.isSome
  | .circle left => !left.isAbsolute

end Typeset.FileSystem
