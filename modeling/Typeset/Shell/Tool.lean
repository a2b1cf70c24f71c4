import Typeset.Shell.Builtin

/-!
Tools of the host that run no other program.
-/

namespace Typeset.Shell.Tool

open Text Act Utf8

def complain (tool message : String) : Act Unit := do
  put 2 (tool ++ ": " ++ message ++ "\n")
  setStatus 1

def reason : FileError → String
  | .nul => "Invalid argument"
  | .system e => e.reason

/-- Words that are no options, and the letters of those that are. -/
def split (words : List String) : List Char × List String :=
  let isOption (w : String) : Bool := w.startsWith "-" && w ≠ "-" && w ≠ "--"
  let front := words.takeWhile (· ≠ "--")
  let behind := words.drop (front.length + 1)
  (((front.filter isOption).flatMap fun w => w.toList.drop 1),
    front.filter (fun w => !isOption w) ++ behind)

def milliseconds? (w : String) : Option Nat :=
  let whole := w.toList.takeWhile Char.isDigit
  let rest := w.toList.drop whole.length
  let (fraction, rest) := match rest with
    | '.' :: rest => (rest.takeWhile Char.isDigit, rest.dropWhile Char.isDigit)
    | rest => ([], rest)
  let unit := match rest with
    | [] => some 1000
    | ['s'] => some 1000
    | ['m'] => some 60000
    | ['h'] => some 3600000
    | ['d'] => some 86400000
    | _ => none
  if whole.isEmpty ∧ fraction.isEmpty then none
  else unit.map fun u =>
    let digits := whole ++ fraction
    (digits.foldl (fun n c => n * 10 + (c.toNat - 48)) 0) * u / Nat.pow 10 fraction.length

def hint (tool : String) : Act Unit := put 2 ("Try '" ++ tool ++ " --help' for more information.\n")

def sleep (words : List String) : Act Unit := do
  match words with
  | [] =>
    complain "sleep" "missing operand"
    hint "sleep"
  | ws =>
    match ws.mapM milliseconds? with
    | some ns => Act.wait (ns.foldl (· + ·) 0)
    | none =>
      (ws.filter fun w => (milliseconds? w).isNone).forM fun w =>
        complain "sleep" ("invalid time interval '" ++ w ++ "'")
      hint "sleep"

/-- What can be read from the file that a word names, where a dash stands for the standard input; else a
complaint. -/
def inputOf (tool : String) (complaint : String → FileError → String) (w : String) : Act (Option Bytes) := do
  if w = "-" then pure (some (← takeInput 0))
  else
    let m ← get
    match m.scene.files.read m.directory (Octets.toText w) with
    | .ok bs => pure (some bs)
    | .error e => do
      complain tool (complaint w e)
      pure none

def unread (w : String) (e : FileError) : String := w ++ ": " ++ reason e

/-- The words for files, of which no word at all means the standard input. -/
def orInput (words : List String) : List String := if words.isEmpty then ["-"] else words

/-- What can be read from the files that words name, one after the other. -/
def contents (tool : String) (words : List String) : Act (List (String × Bytes)) :=
  (orInput words).filterMapM fun w => do pure ((← inputOf tool unread w).map (w, ·))

def lines (bs : Bytes) : List Bytes :=
  bs.foldr (fun b ls =>
    if b = 10 then [b] :: ls
    else match ls with
      | [] => [[b]]
      | l :: rest => (b :: l) :: rest) []

/-- Copies files to the standard output, with numbers in front of the lines if asked for. -/
def cat (words : List String) : Act Unit := do
  let (letters, names) := split words
  if 'n' ∈ letters then
    let all := lines ((← contents "cat" names).flatMap (·.2))
    (all.zip (List.range all.length)).forM fun p =>
      let n := toString (p.2 + 1)
      emit (Octets.toBytes (List.replicate (6 - n.length) ' ' ++ n.toList ++ ['\t']) ++ p.1)
  else (orInput names).forM fun w => do emit ((← inputOf "cat" unread w).getD [])

/-- The count that is asked for by the first words of `head` or `tail`, which is ten if none is, whether
bytes are counted, and the other words. -/
def countOf : (fuel : Nat) → List String → Nat × Bool × List String
  | 0, ws => (10, false, ws)
  | fuel + 1, ws =>
    match ws with
    | w :: rest =>
      match w.toList with
      | ['-', 'n'] => ((number? (rest.headD "")).getD 10, false, rest.drop 1)
      | ['-', 'c'] => ((number? (rest.headD "")).getD 10, true, rest.drop 1)
      | '-' :: 'n' :: n => ((number? (String.ofList n)).getD 10, false, rest)
      | '-' :: 'c' :: n => ((number? (String.ofList n)).getD 10, true, rest)
      | '-' :: d :: ds =>
        match number? (String.ofList (d :: ds)) with
        | some n => (n, false, rest)
        | none => countOf fuel rest
      | _ => (10, false, w :: rest)
    | [] => (10, false, [])

def unopened (w : String) : FileError → String
  | .system .isDirectory => "error reading '" ++ w ++ "': Is a directory"
  | e => "cannot open '" ++ w ++ "' for reading: " ++ reason e

def cut (tool : String) (last : Bool) (words : List String) : Act Unit := do
  let (n, inBytes, names) := countOf words.length words
  let pick {α : Type} (l : List α) : List α := if last then l.drop (l.length - n) else l.take n
  let _ ← (orInput names).foldlM (fun isFirst w => do
    match ← inputOf tool unopened w with
    | none => pure isFirst
    | some bs => do
      if names.length > 1 then
        put 1 ((if isFirst then "" else "\n") ++ "==> " ++
          (if w = "-" then "standard input" else w) ++ " <==\n")
      emit (if inBytes then pick bs else (pick (lines bs)).flatten)
      pure false) true

def counts (bs : Bytes) : Nat × Nat × Nat :=
  let isBlank (b : UInt8) : Bool := b = 32 || (9 ≤ b && b ≤ 13)
  let words := bs.foldl (fun (n, inWord) b =>
    if isBlank b then (n, false) else if inWord then (n, true) else (n + 1, true)) (0, false)
  (bs.count 10, words.1, bs.length)

def aligned (width n : Nat) : String :=
  let s := toString n
  String.ofList (List.replicate (width - s.length) ' ') ++ s

def wc (words : List String) : Act Unit := do
  let (letters, names) := split words
  let found ← contents "wc" names
  let rows := found.map fun f => (f.1, counts f.2)
  let total := rows.foldl (fun t r => (t.1 + r.2.1, t.2.1 + r.2.2.1, t.2.2 + r.2.2.2)) (0, 0, 0)
  let wanted (r : Nat × Nat × Nat) : List Nat :=
    if letters.isEmpty then [r.1, r.2.1, r.2.2]
    else (if 'l' ∈ letters then [r.1] else []) ++ (if 'w' ∈ letters then [r.2.1] else []) ++
      (if 'c' ∈ letters then [r.2.2] else [])
  let columns := (wanted total).length
  let width := if names.isEmpty ∧ columns > 1 then 7
    else if columns = 1 ∧ names.length ≤ 1 then 1
    else (toString total.2.2).length
  let row (r : Nat × Nat × Nat) (name : String) : Act Unit :=
    put 1 (" ".intercalate ((wanted r).map (aligned width)) ++
      (if name = "" then "" else " " ++ name) ++ "\n")
  rows.forM fun r => row r.2 (if names.isEmpty then "" else r.1)
  if names.length > 1 then row total "total"

def closed (line : Bytes) : Bytes := if line.getLast? = some 10 then line else line ++ [10]

def sort (words : List String) : Act Unit := do
  let (letters, names) := split words
  let all := ((← contents "sort" names).flatMap fun f => lines f.2).map closed
  let text (l : Bytes) : List Char := Octets.ofBytes l.dropLast
  let value (l : Bytes) : Int := (Printing.numberOf true (String.ofList (text l))).1
  let before (a b : Bytes) : Bool :=
    if 'n' ∈ letters ∧ value a ≠ value b then value a ≤ value b else !(decide (text b < text a))
  let ordered := all.mergeSort before
  let ordered := if 'r' ∈ letters then ordered.reverse else ordered
  let ordered := if 'u' ∈ letters then ordered.eraseDups else ordered
  ordered.forM emit

def rowsOf : List Bytes → List (Bytes × Nat)
  | [] => []
  | l :: rest =>
    match rowsOf rest with
    | (k, n) :: more => if k = l then (k, n + 1) :: more else (l, 1) :: (k, n) :: more
    | [] => [(l, 1)]

def uniq (words : List String) : Act Unit := do
  let (letters, names) := split words
  let all := ((← contents "uniq" names).flatMap fun f => lines f.2).map closed
  ((rowsOf all).filter fun r =>
      !('d' ∈ letters && r.2 = 1) && !('u' ∈ letters && r.2 ≠ 1)).forM fun r => do
    if 'c' ∈ letters then put 1 (aligned 7 r.2 ++ " ")
    emit r.1

/-- The characters that a set writes: ranges and classes, and characters behind a backslash. -/
def setOf : (fuel : Nat) → List Char → List Char
  | 0, _ => []
  | _, [] => []
  | fuel + 1, '[' :: ':' :: rest =>
    let name := rest.takeWhile Char.isAlpha
    let of (p : Char → Bool) : List Char :=
      ((List.range 256).map Char.ofNat).filter p
    let behind := setOf fuel (rest.drop (name.length + 2))
    match String.ofList name with
    | "lower" => of Char.isLower ++ behind
    | "upper" => of Char.isUpper ++ behind
    | "digit" => of Char.isDigit ++ behind
    | "alpha" => of Char.isAlpha ++ behind
    | "alnum" => of Char.isAlphanum ++ behind
    | "space" => of (fun c => c = ' ' || ('\t' ≤ c && c ≤ '\r')) ++ behind
    | _ => '[' :: ':' :: setOf fuel rest
  | fuel + 1, '\\' :: c :: rest =>
    let (bs, left) := Printing.escape (c :: rest)
    match bs with
    | [92] => c :: setOf fuel rest
    | bs => Octets.ofBytes bs ++ setOf fuel left
  | fuel + 1, a :: '-' :: b :: rest =>
    (List.range (b.toNat + 1 - a.toNat)).map (fun n => Char.ofNat (a.toNat + n)) ++ setOf fuel rest
  | fuel + 1, c :: rest => c :: setOf fuel rest

def translate (words : List String) : Act Unit := do
  let (letters, names) := split words
  let set (n : Nat) : List Char := setOf ((names.getD n "").length + 1) (names.getD n "").toList
  let source := set 0
  let isIn (c : Char) : Bool := source.contains c != ('c' ∈ letters || 'C' ∈ letters)
  let text := Octets.ofBytes (← takeInput 0)
  if 'd' ∈ letters then emit (Octets.toBytes (text.filter fun c => !isIn c))
  else
    let target := set 1
    let last := target.getLast?
    let change (c : Char) : Char :=
      if !isIn c then c
      else match target[source.idxOf c]? with
        | some d => d
        | none => last.getD c
    let squeeze (s : List Char) : List Char :=
      s.foldr (fun c rest =>
        if (if target.isEmpty then isIn c else target.contains c) && rest.head? = some c then rest
        else c :: rest) []
    let changed := text.map change
    emit (Octets.toBytes (if 's' ∈ letters then squeeze changed else changed))

def tee (words : List String) : Act Unit := do
  let (letters, names) := split words
  let bs ← takeInput 0
  emit bs
  names.forM fun w => do
    let m ← get
    match m.scene.files.openFile m.directory (Octets.toText w) ('a' ∈ letters)
        (FileSystem.newFileMode m.mask) with
    | .ok (loc, files) => setFiles (files.extend loc bs)
    | .error e => complain "tee" (w ++ ": " ++ reason e)

def remove (words : List String) : Act Unit := do
  let (letters, names) := split words
  if names.isEmpty ∧ 'f' ∉ letters then
    complain "rm" "missing operand"
    hint "rm"
  names.forM fun w => do
    let m ← get
    match m.scene.files.linkLocation m.directory (Octets.toText w) with
    | .ok loc =>
      if m.scene.files.hasDirectory loc ∧ 'r' ∉ letters ∧ 'R' ∉ letters then
        complain "rm" ("cannot remove '" ++ w ++ "': Is a directory")
      else setFiles (m.scene.files.removeTree loc)
    | .error e =>
      if 'f' ∉ letters then complain "rm" ("cannot remove '" ++ w ++ "': " ++ reason e)

def removeDirectories (words : List String) : Act Unit := do
  (split words).2.forM fun w => do
    let m ← get
    let refuse (why : String) : Act Unit := complain "rmdir" ("failed to remove '" ++ w ++ "': " ++ why)
    match m.scene.files.linkLocation m.directory (Octets.toText w) with
    | .ok loc =>
      if !m.scene.files.hasDirectory loc then refuse "Not a directory"
      else if !(m.scene.files.names loc).isEmpty then refuse "Directory not empty"
      else setFiles (m.scene.files.remove loc)
    | .error e => refuse (reason e)

def touch (words : List String) : Act Unit :=
  (split words).2.forM fun w => do
    let m ← get
    match m.scene.files.stat m.directory (Octets.toText w) with
    | .ok _ => pure ()
    | .error _ =>
      match m.scene.files.openFile m.directory (Octets.toText w) true (FileSystem.newFileMode m.mask) with
      | .ok (_, files) => setFiles files
      | .error e => complain "touch" ("cannot touch '" ++ w ++ "': " ++ reason e)

def makeDirectories (words : List String) : Act Unit := do
  let (letters, names) := split words
  names.forM fun w => do
    let m ← get
    if 'p' ∈ letters then
      let loc := (PosixPath.absolute ⟨.root, m.directory⟩ (.ofText (Octets.toText w))).names
      setFiles (m.scene.files.makeDirectories loc)
    else
      let refuse (why : String) : Act Unit :=
        complain "mkdir" ("cannot create directory '" ++ w ++ "': " ++ why)
      match m.scene.files.newLocation m.directory (Octets.toText w) with
      | .ok loc =>
        if (m.scene.files.entry? loc).isSome then refuse "File exists"
        else setFiles (m.scene.files.put loc .directory)
      | .error e => refuse (reason e)

def copy (tool : String) (takeAway : Bool) (words : List String) : Act Unit := do
  match (split words).2 with
  | [a, b] =>
    let m ← get
    let fs := m.scene.files
    let content := fs.stat m.directory (Octets.toText a)
    let source := fs.linkLocation m.directory (Octets.toText a)
    let target := match fs.destination m.directory (Octets.toText b), (PosixPath.ofText (Octets.toText a)).name with
      | .ok loc, name => Except.ok (if fs.hasDirectory loc then loc ++ [name] else loc)
      | .error e, _ => .error e
    match content, source, target with
    | .ok e, .ok old, .ok new =>
      let made := fs.put new e
      setFiles (if takeAway ∧ old ≠ new then made.removeTree old else made)
    | .error e, _, _ => complain tool ("cannot stat '" ++ a ++ "': " ++ reason e)
    | _, _, _ => complain tool ("cannot create regular file '" ++ b ++ "': No such file or directory")
  | _ =>
    complain tool "missing file operand"
    hint tool

def link (words : List String) : Act Unit := do
  let (letters, names) := split words
  match names with
  | [target, name] =>
    let m ← get
    let fs := m.scene.files
    let refuse (why : String) : Act Unit :=
      complain "ln" ("failed to create " ++ (if 's' ∈ letters then "symbolic" else "hard") ++ " link '" ++
        name ++ "': " ++ why)
    match fs.destination m.directory (Octets.toText name) with
    | .error e => refuse (reason e)
    | .ok loc =>
      let loc := if fs.hasDirectory loc then loc ++ [(PosixPath.ofText (Octets.toText target)).name] else loc
      if (fs.entry? loc).isSome ∧ 'f' ∉ letters then refuse "File exists"
      else if 's' ∈ letters then setFiles (fs.put loc (.link (Octets.toText target)))
      else match fs.stat m.directory (Octets.toText target) with
        | .ok e => setFiles (fs.put loc e)
        | .error e => complain "ln" ("failed to access '" ++ target ++ "': " ++ reason e)
  | _ =>
    complain "ln" "missing file operand"
    hint "ln"

def readLinks (words : List String) : Act Unit :=
  (split words).2.forM fun w => do
    let m ← get
    match (m.scene.files.linkLocation m.directory (Octets.toText w)).toOption.bind m.scene.files.entry? with
    | some (.link target) => put 1 (Octets.ofText target ++ "\n")
    | _ => setStatus 1

def list (words : List String) : Act Unit := do
  let (letters, names) := split words
  let names := if names.isEmpty then ["."] else names
  let m ← get
  let located := names.map fun w => (w, m.scene.files.locate m.directory (Octets.toText w))
  located.forM fun p =>
    match p.2 with
    | .error e => do
      complain "ls" ("cannot access '" ++ p.1 ++ "': " ++ reason e)
      setStatus 2
    | .ok _ => pure ()
  let there := (located.filterMap fun p => p.2.toOption.map (p.1, ·)).mergeSort fun a b => !(b.1 < a.1)
  let isFile (p : String × Location) : Bool := 'd' ∈ letters || !m.scene.files.hasDirectory p.2
  (there.filter isFile).forM fun p => put 1 (p.1 ++ "\n")
  let folders := there.filter fun p => !isFile p
  (folders.zip (List.range folders.length)).forM fun p => do
    let (name, loc) := p.1
    if names.length > 1 then
      put 1 ((if p.2 = 0 ∧ folders.length = there.length then "" else "\n") ++ name ++ ":\n")
    let inside := (if 'a' ∈ letters then [".", ".."] else []) ++ m.scene.files.names loc
    (inside.filter fun n => 'a' ∈ letters || 'A' ∈ letters || n.front ≠ '.').forM fun n =>
      put 1 (Octets.ofText n ++ "\n")

def sequence (words : List String) : Act Unit :=
  let number (w : String) : Int := (Printing.numberOf true w).1
  let (a, s, b) : Int × Int × Int := match words with
    | [b] => (1, 1, number b)
    | [a, b] => (number a, 1, number b)
    | a :: s :: b :: _ => (number a, number s, number b)
    | [] => (1, 1, 0)
  if s = 0 then complain "seq" "invalid Zero increment value: '0'"
  else
    let n := if 0 < s then (b - a).fdiv s else (a - b).fdiv (-s)
    (List.range (n + 1).toNat).forM fun k => put 1 (toString (a + s * k) ++ "\n")

/-- The words that `echo` writes when it stands alone; backslashes are read only if asked for. -/
def echo : List String → Act Unit
  | "-n" :: ws => put 1 (" ".intercalate ws)
  | "-e" :: ws => emit (Printing.echo ws)
  | ws => put 1 (" ".intercalate ws ++ "\n")

def environment : Act Unit := do
  (← get).values.pairs.forM fun p => put 1 (p.1 ++ "=" ++ p.2 ++ "\n")

def printVariables (words : List String) : Act Unit := do
  if words.isEmpty then environment
  else words.forM fun w => do
    match ← valueOf w with
    | some v => put 1 (v ++ "\n")
    | none => setStatus 1

/-- The last name of a path, without an ending that is given with it. -/
def baseName (words : List String) : Act Unit :=
  match words with
  | [] => do
    complain "basename" "missing operand"
    hint "basename"
  | w :: rest =>
    let path := PosixPath.ofText w
    let name := (if path.names.isEmpty then path.toText else path.name).toList
    let name := if w = "" then [] else name
    let ending := (rest.headD "").toList
    let bare := if ending.isSuffixOf name ∧ ending ≠ name then name.take (name.length - ending.length)
      else name
    put 1 (String.ofList bare ++ "\n")

def directoryName (words : List String) : Act Unit :=
  match words with
  | [] => do
    complain "dirname" "missing operand"
    hint "dirname"
  | ws => ws.forM fun w =>
    let path := PosixPath.ofText w
    put 1 (path.parent.toText ++ "\n")

def ofName? (name : String) : Option (List String → Act Unit) :=
  match name with
  | "true" => some fun _ => pure ()
  | "false" => some fun _ => setStatus 1
  | "echo" => some echo
  | "printf" => some Builtin.printf
  | "test" => some Builtin.test
  | "[" => some Builtin.bracket
  | "pwd" => some Directory.print
  | "kill" => some Signal.kill
  | "sleep" => some sleep
  | "cat" => some cat
  | "head" => some (cut "head" false)
  | "tail" => some (cut "tail" true)
  | "wc" => some wc
  | "sort" => some sort
  | "uniq" => some uniq
  | "tr" => some translate
  | "tee" => some tee
  | "rm" => some remove
  | "rmdir" => some removeDirectories
  | "touch" => some touch
  | "mkdir" => some makeDirectories
  | "cp" => some (copy "cp" false)
  | "mv" => some (copy "mv" true)
  | "ln" => some link
  | "readlink" => some readLinks
  | "ls" => some list
  | "seq" => some sequence
  | "printenv" => some printVariables
  | "basename" => some baseName
  | "dirname" => some directoryName
  | _ => none

end Typeset.Shell.Tool
