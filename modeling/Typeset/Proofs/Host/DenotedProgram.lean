import Typeset.Host.Execution
import Typeset.Host.ProgramSearch
import Typeset.Proofs.FileSystem.NormalForm
import Typeset.Runner

/-!
# The program that a word denotes

A word of a command with a slash is a path from the directory that the command is started in; any other
word is looked for in a search path. The lookup of a program, a probe and the start of a child all go by
this, each with a directory and a search path of its own.
-/

namespace Typeset

open Text

namespace FileSystem
variable {fs : FileSystem} {dir cwd file : Location} {path searchPath word : String}

/-- Whether there is a file at a location that may be executed. -/
def hasProgram (fs : FileSystem) (loc : Location) : Bool :=
  match fs.entry? loc with
  | some (.file _ mode) => executable mode
  | some (.tool _) => true
  | _ => false

theorem isProgram_iff {fs : FileSystem} {cwd : Location} {path : String} :
    fs.isProgram cwd path = true ↔
      ∃ loc, fs.locate cwd path = .ok loc ∧ fs.hasProgram loc = true := by
  constructor
  · intro h
    rw [isProgram] at h
    split at h
    next content mode hs =>
      obtain ⟨loc, hl, he⟩ := stat_eq_ok_iff.1 hs
      exact ⟨loc, hl, by simpa [hasProgram, he] using h⟩
    next tool hs =>
      obtain ⟨loc, hl, he⟩ := stat_eq_ok_iff.1 hs
      exact ⟨loc, hl, by simp [hasProgram, he]⟩
    next => cases h
  · rintro ⟨loc, hl, hp⟩
    rw [hasProgram] at hp
    split at hp
    next content mode he =>
      have hs := stat_eq_ok_iff.2 ⟨loc, hl, he⟩
      simpa [isProgram, hs] using hp
    next tool he =>
      have hs := stat_eq_ok_iff.2 ⟨loc, hl, he⟩
      simp [isProgram, hs]
    next => cases hp

def programAt? (fs : FileSystem) (dir : Location) (path : String) : Option Location :=
  (fs.locate dir path).toOption.filter fs.hasProgram

/-- The program that the first word of a command denotes in a directory. A word with a slash is a path
from there; any other one is looked for in a search path. -/
def denoted? (fs : FileSystem) (dir : Location) (searchPath word : String) : Option Location :=
  (Program.candidates word searchPath).findSome? (fs.programAt? dir)

theorem programAt?_eq_some_iff : fs.programAt? dir path = some file ↔
    fs.locate dir path = .ok file ∧ fs.hasProgram file = true := by
  rw [programAt?, Option.filter_eq_some_iff]
  cases fs.locate dir path <;> simp [Except.toOption]

theorem isSome_programAt? : (fs.programAt? dir path).isSome = fs.isProgram dir path := by
  rw [Bool.eq_iff_iff, isProgram_iff, Option.isSome_iff_exists]
  simp only [programAt?_eq_some_iff]

theorem denoted?_of_slash (h : '/' ∈ word.toList) :
    fs.denoted? dir searchPath word = fs.programAt? dir word := by
  simp [denoted?, Program.candidates, h]

theorem findSome?_programAt? {paths : List String} (h : paths.find? (fs.isProgram dir) = some path) :
    paths.findSome? (fs.programAt? dir) = fs.programAt? dir path := by
  induction paths with
  | nil => cases h
  | cons p paths ih =>
    rw [List.find?_cons, ← isSome_programAt?] at h
    rw [List.findSome?_cons]
    cases hp : fs.programAt? dir p with
    | none =>
      rw [hp] at h
      exact ih h
    | some file =>
      rw [hp] at h
      cases h
      exact hp.symm

theorem programAt?_ofText (h : fs.programAt? dir path = some file) :
    fs.programAt? dir (PosixPath.ofText path).toText = some file := by
  obtain ⟨hl, hp⟩ := programAt?_eq_some_iff.1 h
  exact programAt?_eq_some_iff.2 ⟨locate_ofText hl, hp⟩

end FileSystem

namespace PosixPath
variable {text : String}

theorem slash_mem_toText_of_isAbsolute (h : (ofText text).isAbsolute = true) :
    '/' ∈ (ofText text).toText.toList := by
  have hf := (front_toText_ofText text).2 (isAbsolute_ofText.1 h)
  exact List.mem_of_mem_head? ((front_eq_slash_iff _).1 hf)

end PosixPath

namespace Host
variable {h : Host} {name : String} {given : Option Variables} {executable : PosixPath}

/-- The lookup answers with the path of the program that the name denotes. -/
theorem exists_of_findProgram? (hf : h.findProgram? name given = some executable) :
    ∃ file path, path ∈ Program.candidates name (h.searchPath given) ∧
      executable = .ofText path ∧ h.files.programAt? h.workingDirectory path = some file ∧
      h.files.denoted? h.workingDirectory (h.searchPath given) name = some file := by
  obtain ⟨path, hpath, rfl⟩ := Option.map_eq_some_iff.1 hf
  have hfind : (Program.candidates name (h.searchPath given)).find? h.isProgram = some path := by
    rw [Program.candidates]
    split at hpath
    next hs =>
      split at hpath
      next hp =>
        cases hpath
        simp [hs, hp]
      next => cases hpath
    next hs =>
      split at hpath
      · cases hpath
      · rw [if_neg hs]
        exact hpath
  have hsome : (h.files.programAt? h.workingDirectory path).isSome = true := by
    rw [FileSystem.isSome_programAt?]
    exact List.find?_some hfind
  obtain ⟨file, hfile⟩ := Option.isSome_iff_exists.1 hsome
  refine ⟨file, path, List.mem_of_find?_eq_some hfind, rfl, hfile, ?_⟩
  rw [FileSystem.denoted?, FileSystem.findSome?_programAt? hfind, hfile]

def probed? (h : Host) (c : Probe.Call) : Option Location :=
  c.command.head?.bind (h.files.denoted? h.workingDirectory (h.searchPath none))

/-- The program that a child runs when it is started in a directory. -/
def started? (h : Host) (dir : Location) (sp : Spawn) : Option Location :=
  sp.command.head?.bind
    (h.files.denoted? dir ((sp.environment.get? "PATH").getD defaultSearchPath))

end Host

end Typeset
