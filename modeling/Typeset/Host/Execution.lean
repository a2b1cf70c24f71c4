import Typeset.Host.ProgramSearch

/-!
Execution of program files. A file that begins with `#!` names the program that reads it; a tool of
the host runs by itself; any other file cannot be executed.
-/

namespace Typeset

open Text Utf8

/-- A program that the system can start: a tool of the host, with the name that it is called by and
the words after that. -/
structure Program where
  tool : String
  name : String
  arguments : List String
  deriving DecidableEq

namespace Program

def readerLimit : Nat := 5

def headSize : Nat := 256

def isGap (b : UInt8) : Bool := b = 32 || b = 9

def dropFinalGaps (bs : Bytes) : Bytes := (bs.reverse.dropWhile isGap).reverse

def firstLine? (head : Bytes) : Option Bytes :=
  let line := head.takeWhile fun b => b ≠ 10 && b ≠ 0
  if head[line.length]? = some 10 then some line else none

/-- The path that a line names, and the word behind it; a NUL ends either. An empty path is that of the
working directory. -/
def pathAndWord (line : Bytes) : String × Option String :=
  let text (bs : Bytes) : String := String.ofList (decode bs)
  let rest := (dropFinalGaps line).dropWhile isGap
  let path := rest.takeWhile fun b => !isGap b && b ≠ 0
  let name := if path.isEmpty then "." else text path
  match rest.drop path.length with
  | [] => (name, none)
  | b :: after =>
    if b = 0 then (name, none)
    else (name, some (text ((after.dropWhile isGap).takeWhile (· ≠ 0))))

/-- The reader that the first line of a file names, with one word for it. A line that does not end within
the head is cut, unless that would cut the path; behind the end of a file the head holds NULs. -/
def reader? (content : Bytes) : Option (String × Option String) :=
  match content.take headSize with
  | 35 :: 33 :: rest =>
    match firstLine? rest with
    | some line => if line.all isGap then none else some (pathAndWord line)
    | none =>
      let head := rest ++ List.replicate (headSize - 2 - rest.length) 0
      if (head.dropWhile isGap).all fun b => !isGap b && b ≠ 0 then none
      else some (pathAndWord head.dropLast)
  | _ => none

def refusal? (fs : FileSystem) (cwd : Location) (path : String) : Option Errno :=
  match fs.stat cwd path with
  | .error .nul => some .noEntry
  | .error (.system e) => some e
  | .ok (.tool _) => none
  | .ok (.file _ mode) => if FileSystem.executable mode then none else some .accessDenied
  | .ok _ => some .accessDenied

/-- The program of a path, with the name that it is called by and the words behind that; `readers` files
may follow. -/
def ofPath (fs : FileSystem) (cwd : Location) (readers : Nat) (path name : String)
    (words : List String) : Except Errno Program :=
  match fs.stat cwd path with
  | .error .nul => .error .noEntry
  | .error (.system e) => .error e
  | .ok (.tool tool) => .ok ⟨tool, name, words⟩
  | .ok (.file content mode) =>
    if !FileSystem.executable mode then .error .accessDenied
    else match reader? content with
      | none => .error .execFormat
      | some (reader, word) =>
        match readers with
        | 0 => .error ((refusal? fs cwd reader).getD .tooManyLinks)
        | readers + 1 => ofPath fs cwd readers reader reader (word.toList ++ path :: words)
  | .ok _ => .error .accessDenied

def isMissing (e : Errno) : Bool := e = .noEntry || e = .notDirectory

/-- The program of the first candidate that can be executed. Of the refusals the first one counts
that does not say that a candidate is missing; if all say so, the last one. -/
def ofCandidates (fs : FileSystem) (cwd : Location) (name : String) (words : List String)
    (refusal : Errno) : List String → Except Errno Program
  | [] => .error refusal
  | path :: rest =>
    match ofPath fs cwd readerLimit path name words with
    | .ok p => .ok p
    | .error e => ofCandidates fs cwd name words (if isMissing refusal then e else refusal) rest

def candidates (name searchPath : String) : List String :=
  if '/' ∈ name.toList then [name] else (split ':' searchPath).map (Host.joinPath · name)

def ofCommand (fs : FileSystem) (cwd : Location) (searchPath name : String)
    (words : List String) : Except Errno Program :=
  ofCandidates fs cwd name words .noEntry (candidates name searchPath)

end Program
end Typeset
