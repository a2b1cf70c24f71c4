import Typeset.Shell.Real

/-!
The printing commands of the shell. `echo` writes words, `printf` fills a format as often as there
are words for it. Backslashes write control characters and bytes.
-/

namespace Typeset.Shell.Printing

open Text.Utf8

def octalDigits (n : Nat) (s : List Char) : List Char :=
  (s.take n).takeWhile fun c => '0' ≤ c && c ≤ '7'

def octalByte (digits : List Char) : UInt8 :=
  UInt8.ofNat (digits.foldl (fun n c => n * 8 + (c.toNat - 48)) 0)

def controls : List (Char × UInt8) :=
  [('a', 7), ('b', 8), ('f', 12), ('n', 10), ('r', 13), ('t', 9), ('v', 11), ('e', 27), ('\\', 92)]

/-- What a backslash writes together with the characters behind it, and what is left of these. -/
def escape : List Char → Bytes × List Char
  | [] => ([92], [])
  | c :: rest =>
    match controls.lookup c with
    | some b => ([b], rest)
    | none =>
      match octalDigits 3 (c :: rest) with
      | [] => ([92], c :: rest)
      | ds => ([octalByte ds], (c :: rest).drop ds.length)

/-- The bytes of a word of `echo`, and whether the output goes on behind it. -/
def unescaped : (fuel : Nat) → List Char → Bytes × Bool
  | 0, _ => ([], true)
  | _, [] => ([], true)
  | _, '\\' :: 'c' :: _ => ([], false)
  | fuel + 1, '\\' :: '0' :: rest =>
    let ds := octalDigits 3 rest
    let next := unescaped fuel (rest.drop ds.length)
    (octalByte ds :: next.1, next.2)
  | fuel + 1, '\\' :: rest =>
    let (bs, left) := escape rest
    let next := unescaped fuel left
    (bs ++ next.1, next.2)
  | fuel + 1, c :: rest =>
    let next := unescaped fuel rest
    (Octets.toByte c :: next.1, next.2)

/-- Words with blanks between them, with backslashes read, and with `ending` behind the last one. -/
def echoWords (ending : Bytes) : List String → Bytes
  | [] => ending
  | w :: rest =>
    let (bs, goesOn) := unescaped (w.length + 1) w.toList
    if !goesOn then bs
    else bs ++ (if rest.isEmpty then ending else 32 :: echoWords ending rest)

def echo : List String → Bytes
  | "-n" :: rest => echoWords [] rest
  | words => echoWords [10] words

inductive NumberMistake
  | noNumber
  | leftOver
  | outOfRange
  deriving DecidableEq

def NumberMistake.message : NumberMistake → String
  | .noNumber => "expected numeric value"
  | .leftOver => "not completely converted"
  | .outOfRange => "Numerical result out of range"

/-- The number that a word writes, with a sign or without, and what is wrong with it. A quote in front
asks for the first byte behind it; an empty word is zero. -/
def numberOf (signed : Bool) (s : String) : Int × Option NumberMistake :=
  match s.toList with
  | [] => (0, none)
  | c :: cs =>
    if c = '\'' ∨ c = '"' then ((cs.head?.map Char.toNat).getD 0, none)
    else match Numeral.read? (c :: cs) with
    | none => (0, some .noNumber)
    | some (n, rest) =>
      let fits := if signed then n.fitsSigned else n.fitsUnsigned
      (if signed then n.toSigned else n.toUnsigned,
        if !rest.isEmpty then some .leftOver else if fits then none else some .outOfRange)

/-- The real number that a word writes, and what is wrong with it. -/
def realOf (s : String) : Binary64 × Option NumberMistake :=
  match s.toList with
  | [] => (.zero, none)
  | c :: cs =>
    if c = '\'' ∨ c = '"' then (.ofRatio false ((cs.head?.map Char.toNat).getD 0) 1, none)
    else match Real.read? (c :: cs) with
      | none => (.zero, some .noNumber)
      | some r =>
        (r.value, if !r.rest.isEmpty then some .leftOver
          else if r.outOfRange then some .outOfRange else none)

/-- How far a format has been written: the bytes, the words that are left, those that are wrong as
numbers, whether the output goes on, and the mistake that ended it. -/
structure Progress where
  bytes : Bytes
  words : List String
  wrong : List (String × NumberMistake)
  goesOn : Bool
  used : Bool
  mistake : Option FormatMistake

namespace Progress

def take (p : Progress) : Option String × Progress :=
  (p.words.head?, { p with words := p.words.drop 1, used := true })

def takeNumber (p : Progress) (signed : Bool) : Int × Progress :=
  match p.take with
  | (none, p) => (0, p)
  | (some w, p) =>
    let (n, mistake) := numberOf signed w
    (n, { p with wrong := p.wrong ++ mistake.toList.map (w, ·) })

def takeReal (p : Progress) : Binary64 × Progress :=
  match p.take with
  | (none, p) => (.zero, p)
  | (some w, p) =>
    let (x, mistake) := realOf w
    (x, { p with wrong := p.wrong ++ mistake.toList.map (w, ·) })

def measure (p : Progress) : Measure → Int × Progress
  | .given n => (n, p)
  | .byWord => p.takeNumber true

/-- A directive with the width and the precision that words give it. A negative width asks for blanks
on the right, and a negative precision is none. -/
def complete (p : Progress) (d : WrittenDirective) : Directive × Progress :=
  let (w, p) := p.measure d.width
  let (n, p) := match d.precision with
    | none => ((-1 : Int), p)
    | some m => p.measure m
  ({ d.directive with
    left := d.directive.left || w < 0
    width := w.natAbs
    precision := if n < 0 then none else some n.toNat }, p)

def direct (p : Progress) (written : WrittenDirective) : Progress :=
  let (d, p) := p.complete written
  match d.letter with
  | 's' =>
    let (word, p) := p.take
    { p with bytes := p.bytes ++ d.text (Octets.toBytes (word.getD "").toList) }
  | 'c' =>
    let (word, p) := p.take
    { p with bytes := p.bytes ++ d.text [((Octets.toBytes (word.getD "").toList).head?).getD 0] }
  | 'b' =>
    let (word, p) := p.take
    let (bs, goesOn) := unescaped ((word.getD "").length + 1) (word.getD "").toList
    { p with bytes := p.bytes ++ d.text bs, goesOn := goesOn }
  | _ =>
    if d.isReal then
      let (x, p) := p.takeReal
      { p with bytes := p.bytes ++ Real.write d x }
    else
      let (n, p) := p.takeNumber d.isSigned
      { p with bytes := p.bytes ++ d.integer n }

def stop (p : Progress) (e : FormatMistake) : Progress :=
  { p with goesOn := false, mistake := some e }

/-- What is wrong with a format and its words, in the order in which it shows. -/
def complaints (p : Progress) : List String :=
  p.wrong.map (fun w => w.1 ++ ": " ++ w.2.message) ++ p.mistake.toList.map FormatMistake.message

def status (p : Progress) : Nat :=
  if p.mistake.isSome then 2 else if p.wrong.isEmpty then 0 else 1

end Progress

def pass : (fuel : Nat) → List Char → Progress → Progress
  | 0, _, p => p
  | _, [], p => p
  | fuel + 1, c :: rest, p =>
    if !p.goesOn then p
    else if c = '\\' then
      let (bs, left) := escape rest
      pass fuel left { p with bytes := p.bytes ++ bs }
    else if c = '%' then
      match rest with
      | '%' :: rest => pass fuel rest { p with bytes := p.bytes ++ [37] }
      | rest =>
        match Directive.read rest with
        | .error e => p.stop e
        | .ok (d, left) => pass fuel left (p.direct d)
    else pass fuel rest { p with bytes := p.bytes ++ [Octets.toByte c] }

def passes (format : List Char) : (fuel : Nat) → Progress → Progress
  | 0, p => p
  | fuel + 1, p =>
    let next := pass (format.length + 1) format { p with used := false }
    if next.goesOn ∧ next.used ∧ next.words ≠ [] then passes format fuel next else next

def printf (format : String) (words : List String) : Progress :=
  passes format.toList (words.length + 1) ⟨[], words, [], true, false, none⟩

theorem status_eq_zero_iff {p : Progress} :
    p.status = 0 ↔ p.complaints = [] := by
  cases h : p.mistake <;> simp [Progress.status, Progress.complaints, h]

end Typeset.Shell.Printing
