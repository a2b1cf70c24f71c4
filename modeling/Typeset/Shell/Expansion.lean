import Typeset.Host.Layout
import Typeset.Shell.Arithmetic
import Typeset.Shell.Machine
import Typeset.Shell.Pattern

/-!
From expanded words to the words of a command. An expanded word is a row of atoms: characters, each
marked with whether it can be special in a pattern and whether it separates words if it is a separator, and
marks for where a word is present although empty, for where one ends, and for where a value begins.
-/

namespace Typeset.Shell

inductive Atom
  | char (c : Char) (active splits : Bool)
  | present
  | cut
  | seam
  deriving DecidableEq

namespace Expansion

open Text

def ofLiteral (text : List Char) (quoted : Bool) : List Atom :=
  (if quoted then [.present] else []) ++ text.map fun c => .char c (!quoted) false

/-- A text that stands for a parameter, or the output of a command. -/
def ofValue (text : List Char) (quoted : Bool) : List Atom :=
  (if quoted then .present else .seam) :: text.map fun c => .char c (!quoted) (!quoted)

def ofWords : List String → List Atom
  | [] => []
  | [w] => ofValue w.toList true
  | w :: ws => ofValue w.toList true ++ .cut :: ofWords ws

def characters (as : List Atom) : List Char :=
  as.filterMap fun a => match a with
    | .char c _ _ => some c
    | .cut => some ' '
    | _ => none

/-- Lets a backslash take away what is special in the symbol behind it. -/
def escaping : List Pattern.Symbol → List Pattern.Symbol
  | ('\\', true) :: (c, _) :: rest => (c, false) :: escaping rest
  | s :: rest => s :: escaping rest
  | [] => []

def symbols (as : List Atom) : List Pattern.Symbol :=
  escaping <| as.filterMap fun a => match a with
    | .char c active _ => some (c, active)
    | .cut => some (' ', false)
    | _ => none

/-- Lets the characters of a word that replaces a value separate words, as those of a value do. -/
def asValue (as : List Atom) : List Atom :=
  as.map fun a => match a with
    | .char c active _ => .char c active active
    | a => a

/-- What separates words: characters, of which blanks count as one if they stand side by side. A NUL, which
no text holds, is always a blank. -/
structure Separators where
  characters : List Char

namespace Separators

def holds (s : Separators) (c : Char) : Bool := c = '\x00' || c ∈ s.characters

def isBlank (c : Char) : Bool := c = '\x00' || c = ' ' || c = '\t' || c = '\n'

end Separators

/-- What was last seen on the way through a word: no separator, blanks, or a separator that is none. -/
inductive Behind
  | text
  | blank
  | mark
  deriving DecidableEq

/-- The words that an expanded word falls into, each as a row of symbols. Of `open?` a part has been read. -/
def fields (s : Separators) (open? : Option (List Pattern.Symbol)) (b : Behind) :
    List Atom → List (List Pattern.Symbol)
  | [] => (open?.map List.reverse).toList
  | .present :: rest => fields s (some (open?.getD [])) .text rest
  | .cut :: rest => (open?.map List.reverse).toList ++ fields s none .text rest
  | .seam :: rest => fields s open? .text rest
  | .char c active splits :: rest =>
    if splits ∧ s.holds c then
      let blank := Separators.isBlank c
      match open?, b with
      | none, .text => if blank then fields s none .text rest else [] :: fields s none .mark rest
      | none, .blank => fields s none (if blank then .blank else .mark) rest
      | none, .mark => if blank then fields s none .mark rest else [] :: fields s none .mark rest
      | some w, _ => w.reverse :: fields s none (if blank then .blank else .mark) rest
    else fields s (some ((c, active) :: open?.getD [])) .text rest

def components : List Pattern.Symbol → List (List Pattern.Symbol)
  | [] => [[]]
  | (c, active) :: rest =>
    if c = '/' then [] :: components rest
    else match components rest with
      | [] => [[(c, active)]]
      | w :: ws => ((c, active) :: w) :: ws

def textOf (p : List Pattern.Symbol) : String := String.ofList (p.map (·.1))

/-- The names in a directory that a pattern fits. One that begins with a dot needs a dot in the pattern. -/
def namesFitting (m : Machine) (directory : String) (p : List Pattern.Symbol) : List String :=
  match m.scene.files.locate m.directory (if directory = "" then "." else Octets.toText directory) with
  | .ok loc =>
    let names := (if (p.head?.map (·.1)) = some '.' then [".", ".."] else []) ++
      (m.scene.files.names loc).map Octets.ofText
    names.filter fun n => Pattern.fitsAll p n.toList && (n.front ≠ '.' || (p.head?.map (·.1)) = some '.')
  | .error _ => []

/-- The paths that a row of components stands for, each beginning with one of `done`. -/
def paths (m : Machine) : (done : List String) → List (List Pattern.Symbol) → List String
  | done, [] => done
  | done, p :: rest =>
    let slash := if rest.isEmpty then "" else "/"
    let longer := done.flatMap fun d =>
      if Pattern.isActive p then (namesFitting m d p).map fun n => d ++ n ++ slash
      else [d ++ textOf p ++ slash]
    paths m (longer.filter fun d => d = "" || d = "/" ||
      (m.scene.files.stat m.directory (Octets.toText d)).toOption.isSome) rest

/-- The words that a field stands for: the paths that it fits, or itself. -/
def wordsOf (m : Machine) (p : List Pattern.Symbol) : List String :=
  if Pattern.isActive p ∧ !m.hasOption 'f' then
    match paths m [""] (components p) with
    | [] => [textOf p]
    | ws => ws.mergeSort fun a b => !(b < a)
  else [textOf p]

def separators (m : Machine) : Separators := ⟨((m.values.get? "IFS").getD " \t\n").toList⟩

/-- The first of the characters that separate words, which joins arguments; there may be none. -/
def joint (m : Machine) : String := ((separators m).characters.head?.map String.singleton).getD ""

def words (m : Machine) (as : List Atom) : List String :=
  (fields (separators m) none .text as).flatMap (wordsOf m)

/-- The arguments as atoms: those between quotes side by side if they may be, else joined. -/
def ofArguments (m : Machine) (name : String) (quoted splits : Bool) : List Atom :=
  if quoted ∧ splits ∧ name = "@" then ofWords m.arguments
  else if quoted ∨ !splits then ofValue ((joint m).intercalate m.arguments).toList quoted
  else ofValue ("\x00".intercalate m.arguments).toList false

/-- The switches that are on, as letters, in the order in which they are listed. -/
def optionLetters (m : Machine) : String :=
  String.ofList (['e', 'f', 'I', 'i', 'm', 'n', 's', 'x', 'v', 'V', 'E', 'C', 'a', 'b', 'u'].reverse.filter
    m.hasOption)

def value? (m : Machine) (name : String) : Option String :=
  match name with
  | "@" => some ((joint m).intercalate m.arguments)
  | "*" => some ((joint m).intercalate m.arguments)
  | "#" => some (toString m.arguments.length)
  | "?" => some (toString m.status)
  | "$" => some (toString m.pid)
  | "!" => m.lastChild.map toString
  | "-" => some (optionLetters m)
  | _ =>
    match Act.number? name with
    | some 0 => some m.name
    | some n => m.arguments[n - 1]?
    | none => m.values.get? name

/-- The integer that a variable holds; an unset or blank one holds zero. -/
def integer (m : Machine) (name : String) : Except Arithmetic.Mistake Int :=
  let text := (m.values.get? name).getD ""
  if text.toList.all Numeral.isSpace then .ok 0
  else match Numeral.whole? (Numeral.read? text.toList) with
    | some n => .ok n
    | none => .error (.illegalNumber text)

/-- The home directory that a tilde with a user's name stands for. -/
def home? (m : Machine) (user : String) : Option String :=
  if user = "" then m.values.get? "HOME" else Host.usualAccounts.lookup user

/-- The pieces of a word in which a tilde in front stands for a home directory, if that is known. With
`inValue`, also those behind a colon do. -/
def tildes (m : Machine) (inValue start : Bool) : (fuel : Nat) → List Piece → List Piece
  | 0, ps => ps
  | _, [] => []
  | fuel + 1, .literal ['~'] false :: rest =>
    let isEnd (c : Char) : Bool := c = '/' || (inValue && c = ':')
    let user := rest.takeWhile fun p => match p with
      | .literal [c] false => !isEnd c
      | _ => false
    let behind := rest.drop user.length
    let ends : Bool := match behind with
      | [] => true
      | .literal [c] false :: _ => isEnd c
      | _ => false
    let name := String.ofList (user.flatMap fun p => match p with
      | .literal text _ => text
      | _ => [])
    match if start ∧ ends then home? m name else none with
    | some home => .literal home.toList true :: tildes m inValue false fuel behind
    | none => .literal ['~'] false :: tildes m inValue false fuel rest
  | fuel + 1, p :: rest =>
    let opens : Bool := match p with
      | .literal [':'] false => inValue
      | _ => false
    p :: (if inValue then tildes m inValue opens fuel rest else rest)

def dropLineEnds (s : List Char) : List Char := (s.reverse.dropWhile (· = '\n')).reverse

@[simp] theorem ofWords_nil : ofWords [] = [] := rfl

end Expansion
end Typeset.Shell
