import Typeset.Shell.Token

/-!
Reading scripts. A source gives up its characters one after the other and keeps count of the lines; a
document that stands below the current line is taken out of it at once. Commands are read by the unit: up to
the end of a line on which no command is left open. Every reading of a part is bounded by the number of
characters that there are.
-/

namespace Typeset.Shell

/-- An alias whose text is being read: how many characters are left where the text ends, and whether a blank
ends it. -/
structure InUse where
  name : String
  left : Nat
  isOpen : Bool

/-- A script that is being read: what is left of it, the current line, how many lines below it have been
taken out, a token that has been put back, and the aliases with those that are in use. -/
structure Source where
  rest : List Char
  line : Nat
  taken : Nat
  pushed : Option Token
  aliases : List (String × String)
  used : List InUse

namespace Source

def ofText (text : List Char) (aliases : List (String × String)) : Source :=
  ⟨text, 1, 0, none, aliases, []⟩

def drop (s : Source) : (n : Nat) → Source
  | 0 => s
  | n + 1 =>
    match s.rest with
    | [] => s
    | '\n' :: rest => drop { s with rest := rest, line := s.line + 1 + s.taken, taken := 0 } n
    | _ :: rest => drop { s with rest := rest } n

end Source

/-- A reading takes characters from a source, or finds a flaw. -/
abbrev Scan := StateT Source (Except Flaw)

namespace Reader

def isMeta (c : Char) : Bool := c ∈ [' ', '\t', '\n', ';', '&', '|', '<', '>', '(', ')']

def isSpecial (c : Char) : Bool := c ∈ ['@', '*', '#', '?', '$', '!', '-'] || c.isDigit

def fail {α : Type} (m : Mistake) : Scan α := do throw ⟨(← get).line, m⟩

def skip (n : Nat) : Scan Unit := modify (·.drop n)

def accept (c : Char) : Scan Bool := do
  if (← get).rest.head? = some c then
    skip 1
    pure true
  else pure false

def takeRun (p : Char → Bool) : Scan (List Char) := do
  let text := (← get).rest.takeWhile p
  skip text.length
  pure text

/-- Takes away the marks in front that let a line go on with the next one. -/
def joinLines : (fuel : Nat) → Scan Unit
  | 0 => pure ()
  | fuel + 1 => do
    match (← get).rest with
    | '\\' :: '\n' :: _ =>
      skip 2
      joinLines fuel
    | _ => pure ()

/-- Takes away the blanks in front, lines that go on and a comment among them. -/
def skipBlanks : (fuel : Nat) → Scan Unit
  | 0 => pure ()
  | fuel + 1 => do
    match (← get).rest with
    | ' ' :: _ =>
      skip 1
      skipBlanks fuel
    | '\t' :: _ =>
      skip 1
      skipBlanks fuel
    | '\\' :: '\n' :: _ =>
      skip 2
      skipBlanks fuel
    | '#' :: _ => do let _ ← takeRun (· ≠ '\n')
    | _ => pure ()

/-- Leaves the aliases whose text ends before the token at the front; the answer is whether one of them makes
the token an alias too. -/
def leaveAliases : Scan Bool := do
  let s ← get
  match s.used with
  | [] => pure false
  | used =>
    let start := s.rest.length
    set { s with used := used.filter (·.left < start) }
    pure (used.any fun u => u.isOpen && decide (start ≤ u.left))

def putAlias (name value : String) : Scan Unit :=
  modify fun s =>
    let text := value.toList
    let isOpen : Bool := text.getLast? = some ' ' ∨ text.getLast? = some '\t'
    { s with rest := text ++ s.rest, used := ⟨name, s.rest.length, isOpen⟩ :: s.used }

/-- Reads another text that begins on some line, and then goes on with this one. -/
def within {α : Type} (text : List Char) (line : Nat) (r : Scan α) : Scan α := do
  let s ← get
  let used := s.used.map fun u => { u with left := 0 }
  set { s with rest := text, line := line, taken := 0, pushed := none, used := used }
  let a ← r
  set s
  pure a

/-- The lines of a text up to one that equals `w`, and what follows that line. -/
def linesUpTo (strips : Bool) (w : List Char) : (fuel : Nat) → List Char → List Char × List Char
  | 0, s => ([], s)
  | _, [] => ([], [])
  | fuel + 1, s =>
    let raw := s.takeWhile (· ≠ '\n')
    let rest := s.drop raw.length
    let line := if strips then raw.dropWhile (· = '\t') else raw
    if line = w then ([], rest.drop 1)
    else
      let r := linesUpTo strips w fuel (rest.drop 1)
      (line ++ rest.take 1 ++ r.1, r.2)

/-- Takes the lines below the current one up to a line that equals `w`, with the number of the first one. -/
def takeDocument (strips : Bool) (w : List Char) : Scan (List Char × Nat) := do
  let s ← get
  let line := s.rest.takeWhile (· ≠ '\n')
  let below := (s.rest.drop line.length).drop 1
  let (text, rest) := linesUpTo strips w (below.length + 1) below
  set { s with rest := line ++ '\n' :: rest, taken := s.taken + below.count '\n' - rest.count '\n' }
  pure (text, s.line + 1 + s.taken)

def putBack (t : Token) : Scan Unit := modify fun s => { s with pushed := some t }

def unexpected {α : Type} (t : Token) (expected : Option Token) : Scan α :=
  fail (.unexpected t.title (expected.map Token.title))

def assignmentOf (name : List Char) : List Piece → Option Assignment
  | .literal [c] false :: rest =>
    if c = '=' then
      if isName name then some (.mk (String.ofList name) rest) else none
    else assignmentOf (name ++ [c]) rest
  | _ => none

def form : Scan Form := do
  let ofLetter (orEmpty : Bool) (c : Char) : Option Form :=
    match c with
    | '-' => some (.fallback orEmpty)
    | '=' => some (.assign orEmpty)
    | '+' => some (.replace orEmpty)
    | '?' => some (.demand orEmpty)
    | _ => none
  match (← get).rest with
  | '\x7d' :: _ => pure .value
  | '%' :: '%' :: _ =>
    skip 2
    pure (.dropEnd true)
  | '%' :: _ =>
    skip 1
    pure (.dropEnd false)
  | '#' :: '#' :: _ =>
    skip 2
    pure (.dropStart true)
  | '#' :: _ =>
    skip 1
    pure (.dropStart false)
  | ':' :: c :: _ =>
    skip 1
    if (ofLetter true c).isSome then skip 1
    pure ((ofLetter true c).getD .invalid)
  | c :: _ =>
    if (ofLetter false c).isSome then skip 1
    pure ((ofLetter false c).getD .invalid)
  | [] => pure .invalid

/-- The name of a parameter between braces, and its form where that stands in front or is invalid. -/
def parameterName : Scan (List Char × Option Form) := do
  let named : Scan (List Char) := do
    match (← get).rest with
    | c :: _ =>
      if isNameStart c then takeRun isNameChar
      else if c.isDigit then takeRun Char.isDigit
      else pure []
    | [] => pure []
  match (← get).rest with
  | '#' :: c :: d :: _ =>
    if isNameChar c then
      skip 1
      pure (← named, some .length)
    else if c ≠ '\x7d' ∧ d = '\x7d' then
      skip 2
      pure ([c], some (if isSpecial c then .length else .invalid))
    else
      skip 1
      pure (['#'], none)
  | c :: _ =>
    if isNameChar c then pure (← named, none)
    else if isSpecial c then
      skip 1
      pure ([c], none)
    else pure ([], some .invalid)
  | [] => pure ([], some .invalid)

/-- The text between backquotes, of which the first one has been taken. A backslash protects a few
characters, between double quotes also those. -/
def backquoted (quoted : Bool) : (fuel : Nat) → Scan (List Char)
  | 0 => fail .openBackquote
  | fuel + 1 => do
    match (← get).rest with
    | [] => fail .openBackquote
    | '\x60' :: _ =>
      skip 1
      pure []
    | '\\' :: '\n' :: _ =>
      skip 2
      backquoted quoted fuel
    | '\\' :: c :: _ =>
      skip 2
      let kept := if c ∈ ['\x60', '\\', '$'] ∨ (quoted ∧ c = '"') then [c] else ['\\', c]
      pure (kept ++ (← backquoted quoted fuel))
    | c :: _ =>
      skip 1
      pure (c :: (← backquoted quoted fuel))

inductive Extent
  /-- At the next double quote. -/
  | quote
  /-- With the text: it is a document, or the word for one. -/
  | document
  /-- At the brace of a parameter that stands in quotes, or in a document. -/
  | brace (inDocument : Bool)
  deriving DecidableEq

/-- How a token is read: whether words can be reserved, whether line ends are passed over, and whether
aliases count. -/
structure Expecting where
  keywords : Bool
  newlines : Bool
  aliases : Bool

def plainly : Expecting := ⟨false, false, false⟩

def atCommand : Expecting := ⟨true, false, true⟩

def below : Expecting := ⟨true, true, true⟩

inductive Extension
  /-- Up to the end of a line. -/
  | unit
  /-- Inside another command, at least one. -/
  | some
  /-- Inside another command, perhaps none. -/
  | any
  deriving DecidableEq

/-- Commands that are special, and whose names are not those of functions. -/
def specialNames : List String :=
  [".", ":", "break", "continue", "eval", "exec", "exit", "export", "local", "readonly", "return",
    "set", "shift", "times", "trap", "unset"]

def redirectionSign (n : Option Nat) : Scan Token := do
  let sign (length usual : Nat) (d : Direction) (strips : Bool) : Scan Token := do
    skip length
    pure (.redirection (n.getD usual) d strips)
  match (← get).rest with
  | '<' :: '<' :: '-' :: _ => sign 3 0 .text true
  | '<' :: '<' :: _ => sign 2 0 .text false
  | '<' :: '&' :: _ => sign 2 0 .duplicate false
  | '<' :: '>' :: _ => sign 2 0 .both false
  | '<' :: _ => sign 1 0 .input false
  | '>' :: '>' :: _ => sign 2 1 .append false
  | '>' :: '|' :: _ => sign 2 1 .clobber false
  | '>' :: '&' :: _ => sign 2 1 .duplicate false
  | _ => sign 1 1 .output false

mutual

/-- The pieces of a word without quotes around it. Between braces it ends at the closing one, else at a
character that ends a word. -/
def pieces (braced : Bool) : (fuel : Nat) → Scan (List Piece)
  | 0 => pure []
  | fuel + 1 => do
    match (← get).rest with
    | [] => if braced then fail .openBrace else pure []
    | '\\' :: '\n' :: _ =>
      skip 2
      pieces braced fuel
    | ['\\'] =>
      skip 1
      pure [.literal ['\\'] true]
    | '\\' :: c :: _ =>
      skip 2
      pure (.literal [c] true :: (← pieces braced fuel))
    | '\'' :: _ =>
      skip 1
      let text ← takeRun (· ≠ '\'')
      if !(← accept '\'') then fail .openQuote
      pure (.literal text true :: (← pieces braced fuel))
    | '"' :: _ =>
      skip 1
      let inner ← doubled .quote false fuel
      pure (.literal [] true :: inner ++ (← pieces braced fuel))
    | c :: _ =>
      if if braced then c = '\x7d' else isMeta c then pure []
      else
        skip 1
        let p ← single c false false fuel
        pure (p :: (← pieces braced fuel))

/-- The pieces of text between double quotes, with the character that ends it. Inside braces, double quotes
that stand there switch `inner`. -/
def doubled (e : Extent) (inner : Bool) : (fuel : Nat) → Scan (List Piece)
  | 0 => pure []
  | fuel + 1 => do
    let inBraces := match e with
      | .brace _ => true
      | _ => false
    let inDocument := e = .document || e = .brace true
    match (← get).rest with
    | [] =>
      match e with
      | .quote => fail .openQuote
      | .document => pure []
      | .brace true => fail .openBrace
      | .brace false => fail .openQuote
    | '\\' :: '\n' :: _ =>
      skip 2
      doubled e inner fuel
    | '\\' :: c :: _ =>
      skip 2
      let bare := c ∈ ['$', '\x60', '\\'] || (c = '"' && e ≠ .document) ||
        (c = '\x7d' && inBraces && !inner)
      pure (.literal (if bare then [c] else ['\\', c]) true :: (← doubled e inner fuel))
    | '"' :: _ =>
      skip 1
      match e with
      | .quote => pure []
      | .document => pure (.literal ['"'] true :: (← doubled e inner fuel))
      | .brace _ => doubled e (!inner) fuel
    | c :: _ =>
      if c = '\x7d' ∧ inBraces ∧ !inner then pure []
      else
        skip 1
        let p ← single c true inDocument fuel
        pure (p :: (← doubled e inner fuel))

def single (c : Char) (quoted inDocument : Bool) : (fuel : Nat) → Scan Piece
  | 0 => pure (.literal [c] quoted)
  | fuel + 1 => do
    if c = '$' then dollar quoted inDocument fuel
    else if c = '\x60' then
      let text ← backquoted quoted (fuel + 1)
      pure (.output (← within text 1 (commands .any fuel)) quoted)
    else pure (.literal [c] quoted)

def dollar (quoted inDocument : Bool) : (fuel : Nat) → Scan Piece
  | 0 => pure (.literal ['$'] quoted)
  | fuel + 1 => do
    joinLines fuel
    match (← get).rest with
    | '(' :: '(' :: _ =>
      skip 2
      pure (.arithmetic (← sum 0 fuel) quoted)
    | '(' :: _ =>
      skip 1
      let body ← commands .any fuel
      match ← next atCommand fuel with
      | .closeParen => pure (.output body quoted)
      | t => unexpected t (some .closeParen)
    | '\x7b' :: _ =>
      skip 1
      let (name, f) ← parameterName
      let f ← match f with
        | some f => pure f
        | none => form
      let bare := match f with
        | .dropStart _ => true
        | .dropEnd _ => true
        | _ => !quoted
      let word ← if bare then pieces true fuel else doubled (.brace inDocument) false fuel
      skip 1
      pure (.parameter (String.ofList name) f word quoted)
    | c :: _ =>
      if isNameStart c then
        let name ← takeRun isNameChar
        pure (.parameter (String.ofList name) .value [] quoted)
      else if isSpecial c then
        skip 1
        pure (.parameter (String.singleton c) .value [] quoted)
      else pure (.literal ['$'] quoted)
    | [] => pure (.literal ['$'] quoted)

def sum (depth : Nat) : (fuel : Nat) → Scan (List Piece)
  | 0 => fail .openSum
  | fuel + 1 => do
    match (← get).rest with
    | [] => fail .openSum
    | '\\' :: '\n' :: _ =>
      skip 2
      sum depth fuel
    | ')' :: rest =>
      skip 1
      match depth, rest with
      | 0, ')' :: _ =>
        skip 1
        pure []
      | _, _ => pure (.literal [')'] true :: (← sum (depth - 1) fuel))
    | '(' :: _ =>
      skip 1
      pure (.literal ['('] true :: (← sum (depth + 1) fuel))
    | '\\' :: c :: _ =>
      if c = '\\' ∨ c = '\x60' ∨ c = '$' ∨ c = '"' then
        skip 2
        pure (.literal [c] true :: (← sum depth fuel))
      else
        skip 1
        pure (.literal ['\\'] true :: (← sum depth fuel))
    | c :: _ =>
      skip 1
      let p ← single c true false fuel
      pure (p :: (← sum depth fuel))

/-- The next token: one that was put back, or one from the front of the source. -/
def next (e : Expecting) : (fuel : Nat) → Scan Token
  | 0 => pure .ending
  | fuel + 1 => do
    let (t, follows) ← match (← get).pushed with
      | some t =>
        modify fun s => { s with pushed := none }
        pure (t, false)
      | none =>
        skipBlanks (fuel + 1)
        let follows ← leaveAliases
        pure (← fresh fuel, follows)
    let e := { e with aliases := e.aliases || follows }
    match t with
    | .newline =>
      if e.newlines then next e fuel else pure t
    | .word w =>
      match bareText? w with
      | none => pure t
      | some text =>
        if e.keywords ∧ text ∈ keywords then pure (.keyword text)
        else if !e.aliases then pure t
        else
          let s ← get
          match s.aliases.lookup text with
          | some value =>
            if s.used.any (·.name = text) then pure t
            else
              putAlias text value
              next e fuel
          | none => pure t
    | t => pure t

def fresh : (fuel : Nat) → Scan Token
  | 0 => pure .ending
  | fuel + 1 => do
    skipBlanks (fuel + 1)
    let operator (n : Nat) (t : Token) : Scan Token := do
      skip n
      pure t
    match (← get).rest with
    | [] => pure .ending
    | '\n' :: _ => operator 1 .newline
    | '&' :: '&' :: _ => operator 2 .andAnd
    | '&' :: _ => operator 1 .ampersand
    | '|' :: '|' :: _ => operator 2 .orOr
    | '|' :: _ => operator 1 .bar
    | ';' :: ';' :: _ => operator 2 .endArm
    | ';' :: _ => operator 1 .semicolon
    | '(' :: _ => operator 1 .openParen
    | ')' :: _ => operator 1 .closeParen
    | c :: d :: _ =>
      if c = '<' ∨ c = '>' then redirectionSign none
      else if c.isDigit ∧ (d = '<' ∨ d = '>') then
        skip 1
        redirectionSign (some (c.toNat - 48))
      else pure (.word (← pieces false fuel))
    | [c] =>
      if c = '<' ∨ c = '>' then redirectionSign none else pure (.word (← pieces false fuel))

def redirected (n : Nat) (d : Direction) (strips : Bool) : (fuel : Nat) → Scan Redirection
  | 0 => pure (.mk n d [])
  | fuel + 1 => do
    match ← next plainly fuel with
    | .word target =>
      if d = .text then
        let (w, quoted) := (literalText target).getD ([], false)
        let (text, line) ← takeDocument strips w
        let body ← if quoted then pure [.literal text true]
          else within text line (doubled .document false fuel)
        pure (.mk n .text body)
      else pure (.mk n d target)
    | t => unexpected t none

def redirections : (fuel : Nat) → Scan (List Redirection)
  | 0 => pure []
  | fuel + 1 => do
    match ← next atCommand fuel with
    | .redirection n d strips =>
      let r ← redirected n d strips fuel
      pure (r :: (← redirections fuel))
    | t =>
      putBack t
      pure []

/-- The words, assignments and redirections of a simple command; or a function, if parentheses follow the
first word. -/
def simple (line : Nat) (as : List Assignment) (ws : List (List Piece)) (rs : List Redirection) :
    (fuel : Nat) → Scan Command
  | 0 => pure (.simple line as ws rs)
  | fuel + 1 => do
    let done := Command.simple line as ws rs
    match ← next ⟨false, false, ws.isEmpty⟩ fuel with
    | .word w =>
      match ws, assignmentOf [] w with
      | [], some a => simple line (as ++ [a]) [] rs fuel
      | _, _ => simple line as (ws ++ [w]) rs fuel
    | .redirection n d strips =>
      let r ← redirected n d strips fuel
      simple line as ws (rs ++ [r]) fuel
    | .openParen =>
      match as, ws, rs with
      | [], [w], [] => function w fuel
      | _, _, _ =>
        putBack .openParen
        pure done
    | t =>
      putBack t
      pure done

def function (w : List Piece) : (fuel : Nat) → Scan Command
  | 0 => fail .badFunctionName
  | fuel + 1 => do
    match ← next plainly fuel with
    | .closeParen =>
      match bareText? w with
      | some name =>
        if !isName name.toList ∨ name ∈ specialNames then fail .badFunctionName
        pure (.define name (← command below fuel))
      | none => fail .badFunctionName
    | t => unexpected t (some .closeParen)

def expectWord (w : String) (e : Expecting) : (fuel : Nat) → Scan Unit
  | 0 => pure ()
  | fuel + 1 => do
    let t ← next e fuel
    if !t.isKeyword w then unexpected t (some (.keyword w))

def choice (test : Script) : (fuel : Nat) → Scan Command
  | 0 => pure (.choose test [] [])
  | fuel + 1 => do
    expectWord "then" plainly fuel
    let yes ← commands .some fuel
    let t ← next plainly fuel
    if t.isKeyword "elif" then
      let other ← commands .some fuel
      pure (.choose test yes [← choice other fuel])
    else if t.isKeyword "else" then
      let no ← commands .some fuel
      expectWord "fi" plainly fuel
      pure (.choose test yes no)
    else if t.isKeyword "fi" then pure (.choose test yes [])
    else unexpected t (some (.keyword "fi"))

def loopWords : (fuel : Nat) → Scan (List (List Piece))
  | 0 => pure []
  | fuel + 1 => do
    match ← next plainly fuel with
    | .word w => pure (w :: (← loopWords fuel))
    | .newline => pure []
    | .semicolon => pure []
    | t => unexpected t none

def loopHead : (fuel : Nat) → Scan (Option (List (List Piece)))
  | 0 => pure none
  | fuel + 1 => do
    let t ← next below fuel
    if t.isKeyword "in" then some <$> loopWords fuel
    else
      match t with
      | .semicolon => pure none
      | t =>
        putBack t
        pure none

def loopBody (e : Expecting) : (fuel : Nat) → Scan Script
  | 0 => pure []
  | fuel + 1 => do
    expectWord "do" e fuel
    let body ← commands .some fuel
    expectWord "done" plainly fuel
    pure body

def patterns (first : Token) : (fuel : Nat) → Scan (List (List Piece))
  | 0 => pure []
  | fuel + 1 => do
    let p := match first with
      | .word w => w
      | .keyword w => w.toList.map fun c => .literal [c] false
      | _ => []
    match ← next plainly fuel with
    | .bar =>
      let t ← next plainly fuel
      pure (p :: (← patterns t fuel))
    | .closeParen => pure [p]
    | t => unexpected t (some .closeParen)

def arms : (fuel : Nat) → Scan (List Arm)
  | 0 => pure []
  | fuel + 1 => do
    let t ← next ⟨true, true, false⟩ fuel
    if t.isKeyword "esac" then pure []
    else
      let first ← match t with
        | .openParen => next plainly fuel
        | t => pure t
      let ps ← patterns first fuel
      let body ← commands .any fuel
      match ← next ⟨true, true, false⟩ fuel with
      | .endArm => pure (.mk ps body :: (← arms fuel))
      | .keyword "esac" => pure [.mk ps body]
      | t => unexpected t (some .endArm)

def command (e : Expecting) : (fuel : Nat) → Scan Command
  | 0 => fail (.unexpected Token.ending.title none)
  | fuel + 1 => do
    let t ← next e fuel
    let line := (← get).line
    let behind (c : Command) : Scan Command := do
      match ← redirections fuel with
      | [] => pure c
      | rs => pure (.redirected line c rs)
    match t with
    | .openParen =>
      let body ← commands .some fuel
      match ← next plainly fuel with
      | .closeParen => behind (.subshell line body)
      | t => unexpected t (some .closeParen)
    | .keyword "\x7b" =>
      let body ← commands .some fuel
      expectWord "\x7d" plainly fuel
      behind (.group body)
    | .keyword "if" =>
      let test ← commands .some fuel
      behind (← choice test fuel)
    | .keyword "while" =>
      let test ← commands .some fuel
      behind (.repeated false test (← loopBody plainly fuel))
    | .keyword "until" =>
      let test ← commands .some fuel
      behind (.repeated true test (← loopBody plainly fuel))
    | .keyword "for" =>
      match ← next plainly fuel with
      | .word w =>
        match bareText? w with
        | some name =>
          if !isName name.toList then fail .badLoopVariable
          let words ← loopHead fuel
          behind (.forEach line name words (← loopBody below fuel))
        | none => fail .badLoopVariable
      | _ => fail .badLoopVariable
    | .keyword "case" =>
      match ← next plainly fuel with
      | .word w =>
        expectWord "in" below fuel
        behind (.select line w (← arms fuel))
      | t => unexpected t (some (.word []))
    | .word w =>
      putBack (.word w)
      simple line [] [] [] fuel
    | .redirection n d strips =>
      putBack (.redirection n d strips)
      simple line [] [] [] fuel
    | t => unexpected t none

def pipes (e : Expecting) : (fuel : Nat) → Scan (List Command)
  | 0 => pure []
  | fuel + 1 => do
    let c ← command e fuel
    match ← next plainly fuel with
    | .bar => pure (c :: (← pipes below fuel))
    | t =>
      putBack t
      pure [c]

/-- A pipeline; one that is negated begins with an exclamation mark. -/
def pipeline (e : Expecting) : (fuel : Nat) → Scan Command
  | 0 => pure (.group [])
  | fuel + 1 => do
    let t ← next e fuel
    let negated := t.isKeyword "!"
    if !negated then putBack t
    let c ← match ← pipes (if negated then atCommand else plainly) fuel with
      | [c] => pure c
      | cs => pure (.pipeline cs)
    pure (if negated then .negated c else c)

def chain (done : Command) : (fuel : Nat) → Scan Command
  | 0 => pure done
  | fuel + 1 => do
    match ← next plainly fuel with
    | .andAnd => do chain (.both done (← pipeline below fuel)) fuel
    | .orOr => do chain (.either done (← pipeline below fuel)) fuel
    | t =>
      putBack t
      pure done

def commands (x : Extension) : (fuel : Nat) → Scan Script
  | 0 => pure []
  | fuel + 1 => do
    let t ← next ⟨true, x ≠ .unit, true⟩ fuel
    match t with
    | .newline => pure []
    | .ending =>
      putBack .ending
      pure []
    | t =>
      putBack t
      if x = .any ∧ t.closes then pure []
      else
        let c ← chain (← pipeline plainly fuel) fuel
        let more (c : Command) : Scan Script := do
          pure (c :: (← commands (if x = .some then .any else x) fuel))
        match ← next plainly fuel with
        | .ampersand => more (.background c)
        | .semicolon => more c
        | .newline =>
          putBack .newline
          more c
        | .ending =>
          putBack .ending
          pure [c]
        | t =>
          if x = .unit then unexpected t none
          putBack t
          pure [c]

end

def bound (s : Source) : Nat :=
  16 * (s.rest.length + 1) * s.aliases.foldl (fun n a => n * (a.2.length + 1)) 1 + 64

def document (text : String) : List Piece :=
  let s := Source.ofText text.toList []
  match (doubled .document false (bound s)).run s with
  | .ok (ps, _) => ps
  | .error _ => [.literal text.toList true]

def unit (s : Source) : Except Flaw (Option (Script × Source)) := do
  let (body, rest) ← (commands .unit (bound s)).run { s with pushed := none }
  match body, rest.pushed with
  | [], some .ending => pure none
  | _, _ => pure (some (body, { rest with pushed := none }))

end Reader
end Typeset.Shell
