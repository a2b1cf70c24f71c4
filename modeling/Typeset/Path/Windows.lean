import Typeset.Text.Split

/-!
Paths with backslashes. A path has a drive, may start at the root of it, and goes on with names.
The drive is a letter with a colon, or the two names of a network share; both may stand behind the
mark of an extended path. Slashes read as backslashes.
-/

namespace Typeset

open Text

/-- A path with a drive (which may be empty), a root or none, and names. -/
structure WindowsPath where
  drive : String
  rooted : Bool
  names : List String
  deriving DecidableEq

namespace WindowsPath

def isDriveLetter (c : Char) : Bool := ('a' ≤ c && c ≤ 'z') || ('A' ≤ c && c ≤ 'Z')

/-- The mark of an extended path in front of a text, and the text after it. -/
def takeExtended : List Char → List Char × List Char
  | '\\' :: '\\' :: '?' :: '\\' :: 'U' :: 'N' :: 'C' :: '\\' :: rest =>
    (['\\', '\\', '?', '\\', 'U', 'N', 'C'], '\\' :: '\\' :: rest)
  | '\\' :: '\\' :: '?' :: '\\' :: rest => (['\\', '\\', '?', '\\'], rest)
  | s => ([], s)

/-- The two names of a network share after its two backslashes, and the text after them. -/
def takeShare? (s : List Char) : Option (List Char × List Char) :=
  let host := s.takeWhile (· ≠ '\\')
  match host, s.dropWhile (· ≠ '\\') with
  | [], _ => none
  | _, [] => none
  | _, _ :: rest =>
    let share := rest.takeWhile (· ≠ '\\')
    let after := rest.dropWhile (· ≠ '\\')
    if share.isEmpty ∧ ¬ after.isEmpty then none
    else some (host ++ '\\' :: share, after.drop 1)

/-- A drive letter and a root in front of a text, and the text after them. -/
def takeLetter (s : List Char) : List Char × Bool × List Char :=
  let (drive, rest) := match s with
    | c :: ':' :: rest => if isDriveLetter c then ([c, ':'], rest) else ([], s)
    | _ => ([], s)
  (drive, rest.head? == some '\\', rest.dropWhile (· == '\\'))

/-- The drive, the root and the rest of a text without slashes. -/
def takeRoot (s : List Char) : List Char × Bool × List Char :=
  let (mark, rest) := takeExtended s
  let share := match rest with
    | '\\' :: '\\' :: names => takeShare? names
    | _ => none
  match share with
  | some (names, after) => ((if mark.isEmpty then ['\\'] else mark) ++ '\\' :: names, true, after)
  | none =>
    let (drive, rooted, after) := takeLetter rest
    (mark ++ drive, rooted, after)

def isName (s : String) : Bool := s ≠ "" && s ≠ "."

def ofText (s : String) : WindowsPath :=
  let (drive, rooted, rest) := takeRoot (replaceChar '/' '\\' s).toList
  ⟨String.ofList drive, rooted, (split '\\' (String.ofList rest)).filter isName⟩

def toText (p : WindowsPath) : String :=
  let anchor := p.drive ++ (if p.rooted then "\\" else "")
  let text := anchor ++ join '\\' p.names
  if text = "" then "." else text

def child (p : WindowsPath) (n : String) : WindowsPath := { p with names := p.names ++ [n] }

@[simp] theorem names_child (p : WindowsPath) (n : String) :
    (p.child n).names = p.names ++ [n] := rfl

end WindowsPath
end Typeset
