import Typeset.CommandLine.Flag
import Typeset.Path.Posix

/-!
Requests: what a command line asks for. The words that are no flags name files; they stand in one
row, so files that are given in a second place are not recognised. One letter flags can be written
together, and a value can be attached to the last of them. Two dashes are no value: a flag that has them
attached is given without one.
-/

namespace Typeset.CommandLine

/-- What a command line gives for a flag that takes a value. -/
inductive Given (α : Type)
  /-- The flag is not there. -/
  | absent
  /-- The flag is there without a value. -/
  | empty
  | value (a : α)
  deriving DecidableEq

namespace Given

def value? {α : Type} : Given α → Option α
  | value a => some a
  | _ => none

def ofText (s : String) : Given String := if s = "--" then empty else value s

def map {α β : Type} (f : α → β) : Given α → Given β
  | absent => absent
  | empty => empty
  | value a => value (f a)

@[simp] theorem value?_map {α β : Type} (f : α → β) (g : Given α) :
    (g.map f).value? = g.value?.map f := by
  cases g <;> rfl

end Given

structure Request where
  files : List String
  config : Given PosixPath
  dryRun : Bool
  verbose : Bool
  log : Given String
  deriving DecidableEq

inductive Refusal
  | help
  | misuse (m : Misuse)
  deriving DecidableEq

/-- How far a command line has been read: the request so far, the row of plain words that is being
read, whether a row of files is complete, and the words that were not recognised. -/
structure Progress where
  request : Request
  row : List Word
  hasFiles : Bool
  extras : List String
  deriving DecidableEq

abbrev Setting := Flag × String

namespace Progress

def start : Progress := ⟨⟨[], .absent, false, false, .absent⟩, [], false, []⟩

/-- Ends a row of plain words. The first one that is not empty gives the files. -/
def endRow (p : Progress) : Progress :=
  let words := p.row.map Word.toText
  if p.row.any (fun w => w ≠ .separator) ∧ !p.hasFiles then
    { p with request := { p.request with files := words.erase "--" }, row := [], hasFiles := true }
  else { p with row := [], extras := p.extras ++ words }

def apply (p : Progress) (s : Setting) : Except Refusal Progress :=
  let r := p.request
  match s.1 with
  | .help => .error .help
  | .config => .ok { p with request := { r with config := (Given.ofText s.2).map .ofText } }
  | .dryRun => .ok { p with request := { r with dryRun := true } }
  | .verbose => .ok { p with request := { r with verbose := true } }
  | .log =>
    let given := Given.ofText s.2
    if given.value?.all (· ∈ levels) then .ok { p with request := { r with log := given } }
    else .error (.misuse (.notALevel s.2))

def applyAll (p : Progress) (ss : List Setting) : Except Refusal Progress :=
  ss.foldlM apply p

end Progress

/-- Flags that are written together: those that are complete, and one that still needs a value. -/
structure Cluster where
  complete : List Setting
  open? : Option Flag
  deriving DecidableEq

namespace Cluster

def single (f : Flag) : Cluster := if f.takesValue then ⟨[], some f⟩ else ⟨[(f, "")], none⟩

def cons (f : Flag) (c : Cluster) : Cluster := { c with complete := (f, "") :: c.complete }

def ofLetters (f : Flag) : List Char → Except Misuse Cluster
  | [] => if f.takesValue then .ok ⟨[(f, "")], none⟩ else .error (.unusedValue f "")
  | c :: rest =>
    let whole := String.ofList (c :: rest)
    if f.takesValue then .ok ⟨[(f, whole)], none⟩
    else match Flag.ofSpelling? (String.ofList ['-', c]), rest with
      | none, _ => .error (.unusedValue f whole)
      | some g, [] => .ok (cons f (single g))
      | some g, d :: more => (ofLetters g (d :: more)).map (cons f)

def ofWord (f : Flag) (spelling : String) : Option String → Except Misuse Cluster
  | none => .ok (single f)
  | some s =>
    if f.takesValue then .ok ⟨[(f, s)], none⟩
    else if spelling.toList.take 2 = ['-', '-'] then .error (.unusedValue f s)
    else ofLetters f s.toList

end Cluster

namespace Progress

/-- Takes a cluster of flags; the open one gets `value`. -/
def takeCluster (p : Progress) (c : Cluster) (value : Option String) : Except Refusal Progress :=
  match c.open?, value with
  | none, _ => p.applyAll c.complete
  | some f, some v => p.applyAll (c.complete ++ [(f, v)])
  | some f, none => .error (.misuse (.missingValue f))

def read (p : Progress) : List Word → Except Refusal Progress
  | [] => .ok p.endRow
  | .unknown s :: rest =>
    let p := p.endRow
    read { p with extras := p.extras ++ [s] } rest
  | .flag f spelling attached :: rest => do
    let c ← (Cluster.ofWord f spelling attached).mapError .misuse
    match c.open?, rest with
    | some _, .plain v :: rest => read (← p.endRow.takeCluster c (some v)) rest
    | _, rest => read (← p.endRow.takeCluster c none) rest
  | w :: rest => read { p with row := p.row ++ [w] } rest

end Progress

def request (words : List String) : Except Refusal Request := do
  let ws ← (Word.classifyAll words).mapError .misuse
  let p ← Progress.start.read ws
  if !p.hasFiles then throw (.misuse .missingFiles)
  if p.extras ≠ [] then throw (.misuse (.unrecognized p.extras))
  pure p.request

end Typeset.CommandLine
