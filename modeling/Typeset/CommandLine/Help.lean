import Typeset.CommandLine.Flag
import Typeset.Number.Radix
import Typeset.Variables

/-!
The texts that explain the command line. They are filled to a width: words of a paragraph go on the
line while they fit, and a word that is wider than a whole line is cut. The usage shows each flag
with its value as one piece.
-/

namespace Typeset.CommandLine.Help

/-- A paragraph that is being filled: complete lines, newest first, and the line that is open. -/
structure Filling where
  lines : List (List Char)
  line : List Char

/-- Cuts a word into lines of `width`; what is left fits on a line. -/
def cutWord (width : Nat) (f : Filling) (w : List Char) : Filling :=
  if _h : w.length ≤ width ∨ width = 0 then ⟨f.lines, w⟩
  else cutWord width ⟨w.take width :: f.lines, []⟩ (w.drop width)
termination_by w.length
decreasing_by simp only [List.length_drop]; omega

/-- Adds a word to a paragraph. A word that is wider than a line first fills the open line. -/
def addWord (width : Nat) (f : Filling) (w : List Char) : Filling :=
  if f.line = [] then cutWord width f w
  else if f.line.length + 1 + w.length ≤ width then { f with line := f.line ++ ' ' :: w }
  else
    let room := width - (f.line.length + 1)
    if width < w.length ∧ 0 < room then
      cutWord width ⟨(f.line ++ ' ' :: w.take room) :: f.lines, []⟩ (w.drop room)
    else cutWord width ⟨f.line :: f.lines, []⟩ w

def fill (width : Nat) (words : List String) : List String :=
  let f := (words.map String.toList).foldl (addWord width) ⟨[], []⟩
  (f.line :: f.lines).reverse.map String.ofList

def blanks (n : Nat) : String := String.ofList (List.replicate n ' ')

def wordsOf (s : String) : List String := (s.splitOn " ").filter (· ≠ "")

def program : String := "texpdf"

def description : String := "Compile LaTeX documents to PDF with texi2dvi"

def usageLabel : String := "usage: "

def usagePiece (f : Flag) : String :=
  "[" ++ " ".intercalate (f.spellings.take 1 ++ f.placeholder.toList) ++ "]"

def flagPieces : List String := Flag.all.map usagePiece

def filePieces : List String := ["files", "[files ...]"]

/-- Rows of pieces that are not broken. The first row starts behind `used` characters. -/
def rows (width indent used : Nat) (pieces : List String) : List String :=
  let step := fun (acc : List (List String) × Nat) (piece : String) =>
    match acc.1 with
    | [] => ([[piece]], used + piece.length)
    | row :: done =>
      if width < acc.2 + 1 + piece.length then
        ([piece] :: row :: done, indent + piece.length)
      else ((row ++ [piece]) :: done, acc.2 + 1 + piece.length)
  ((pieces.foldl step ([], 0)).1.reverse).map (" ".intercalate ·)

def indented (indent : Nat) : List String → String
  | [] => ""
  | first :: rest => "\n".intercalate (first :: rest.map (blanks indent ++ ·))

def usageBody (width : Nat) : String :=
  let whole := " ".intercalate (program :: flagPieces ++ filePieces)
  let label := usageLabel.length
  if label + whole.length ≤ width then whole
  else if 4 * (label + program.length) ≤ 3 * width then
    let indent := label + program.length + 1
    indented indent (rows width indent label (program :: flagPieces) ++
      rows width indent indent filePieces)
  else
    let together := rows width label label (flagPieces ++ filePieces)
    let apart := rows width label label flagPieces ++ rows width label label filePieces
    indented label (program :: if together.length > 1 then apart else together)

def usage (width : Nat) : String := usageLabel ++ usageBody (max width 11) ++ "\n"

def column (width : Nat) : Nat := min 24 (max (width - 20) 4)

/-- An entry with its explanation: behind it, or below if the entry is too wide. -/
def entry (width : Nat) (title explanation : String) : String :=
  let column := column width
  let lines := fill (max (width - column) 11) (wordsOf explanation)
  let indented := "\n".intercalate (lines.map (blanks column ++ ·))
  if title.length + 4 ≤ column then
    "  " ++ title ++ String.ofList (indented.toList.drop (title.length + 2)) ++ "\n"
  else "  " ++ title ++ "\n" ++ indented ++ "\n"

def entryTitle (f : Flag) : String :=
  ", ".intercalate (f.spellings.map fun s => " ".intercalate (s :: f.placeholder.toList))

def text (width : Nat) : String :=
  usage width ++ "\n" ++
    "\n".intercalate (fill (max width 11) (wordsOf description)) ++ "\n\n" ++
    "positional arguments:\n" ++ entry width "files" "LaTeX source files to compile" ++ "\n" ++
    "options:\n" ++ String.join (Flag.all.map fun f => entry width (entryTitle f) f.explanation)

def complaint (width : Nat) (m : Misuse) : String :=
  usage width ++ program ++ ": error: " ++ m.message ++ "\n"

/-- The number of columns that a text writes: a decimal numeral above zero, in which digits may be
grouped by single underscores. -/
def columnsOf? (s : String) : Option Nat :=
  ((Numeral.dropUnderscores? (Numeral.trimmed s.toList)).bind (Numeral.integer? 10)).bind fun n =>
    if 0 < n then some n.toNat else none

/-- The width of texts in an environment: two less than the columns of the terminal. -/
def widthIn (env : Variables) : Nat := ((env.get? "COLUMNS").bind columnsOf?).getD 80 - 2

end Typeset.CommandLine.Help
