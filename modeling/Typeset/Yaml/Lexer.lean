import Typeset.Yaml.Scalar
import Typeset.Yaml.Tag

/-!
From text to tokens. A key is known as such only at the colon after it, so places where a key may
have begun are remembered, one for each level of flow collections; a key lies within one line and
1024 characters. The indentation of block collections is kept on a stack.
-/

namespace Typeset.Yaml

open Text Config

/-- A place where a key may have begun. -/
structure KeyStart where
  /-- How many tokens come before the key. -/
  number : Nat
  /-- The line can hold nothing but a key. -/
  required : Bool
  index : Nat
  line : Nat
  column : Nat

/-- How far a text has been read: the place, the collections around it, and the tokens that have been
found but not handed out. -/
structure Lexer where
  cursor : Cursor
  flow : Nat
  indent : Int
  indents : List Int
  keyAllowed : Bool
  keys : List (Nat × KeyStart)
  /-- How many tokens have been handed out. -/
  taken : Nat
  queue : Array Token
  /-- The end of the text is among the tokens. -/
  ended : Bool

namespace Lexer

def ofText (s : List Char) : Lexer := ⟨.ofText s, 0, -1, [], true, [], 0, #[], false⟩

def column (l : Lexer) : Int := l.cursor.column

def inFlow (l : Lexer) : Bool := 0 < l.flow

/-- How many tokens come before the next one that is found. -/
def number (l : Lexer) : Nat := l.taken + l.queue.size

def push (l : Lexer) (t : Token) : Lexer := { l with queue := l.queue.push t }

def insertAt (l : Lexer) (n : Nat) (t : Token) : Lexer :=
  { l with queue := l.queue.insertIdxIfInBounds (n - l.taken) t }

def take (l : Lexer) (n : Nat) (t : Token) : Lexer :=
  { l.push t with cursor := l.cursor.forward n }

/-- Forgets the places where a key can no longer have begun. -/
def dropStaleKeys (l : Lexer) : Except ReadError Lexer :=
  let isStale (k : KeyStart) : Bool := k.line ≠ l.cursor.line || 1024 < l.cursor.index - k.index
  if l.keys.any fun k => isStale k.2 && k.2.required then .error .malformed
  else .ok { l with keys := l.keys.filter fun k => !isStale k.2 }

def dropKey (l : Lexer) : Except ReadError Lexer :=
  match l.keys.lookup l.flow with
  | none => .ok l
  | some k =>
    if k.required then .error .malformed
    else .ok { l with keys := l.keys.filter (·.1 ≠ l.flow) }

def saveKey (l : Lexer) : Except ReadError Lexer :=
  if l.keyAllowed then do
    let required := !l.inFlow && l.indent == l.column
    let l ← l.dropKey
    let c := l.cursor
    pure { l with keys := (l.flow, ⟨l.number, required, c.index, c.line, c.column⟩) :: l.keys }
  else .ok l

/-- Ends the block collections that are indented by more than `column`. -/
def unindent (column : Int) : List Int → Lexer → Lexer
  | [], l => l
  | outer :: more, l =>
    if column < l.indent then
      unindent column more { l.push .blockEnd with indent := outer, indents := more }
    else l

/-- Ends the block collections that are indented by more than `column`; there are none in a flow
collection. -/
def unwind (l : Lexer) (column : Int) : Lexer :=
  if l.inFlow then l else unindent column l.indents l

/-- Begins a block collection with this indentation, if it is a deeper one. -/
def indentTo (l : Lexer) (column : Int) (start : Lexer → Lexer) : Lexer :=
  if l.indent < column then
    start { l with indents := l.indent :: l.indents, indent := column }
  else l

def skipGap : (fuel : Nat) → Lexer → Lexer
  | 0, l => l
  | fuel + 1, l =>
    let c := (l.cursor.dropWhile (· = ' ')).skipComment
    match c.lineBreak? with
    | none => { l with cursor := c }
    | some (_, c) =>
      skipGap fuel { l with cursor := c, keyAllowed := l.keyAllowed || !l.inFlow }

def finish (l : Lexer) : Except ReadError Lexer := do
  let l ← (l.unwind (-1)).dropKey
  pure { l.push .textEnd with keys := [], ended := true }

def outside (l : Lexer) : Except ReadError Lexer := do
  let l ← (l.unwind (-1)).dropKey
  pure { l with keyAllowed := false }

/-- How many flow collections may lie in one another. The outermost of so many has been handed out, for
the places where a key may begin are settled after 1024 characters. -/
def flowLimit : Nat := nestingRoom + 2048

def openFlow (l : Lexer) (t : Token) : Except ReadError Lexer := do
  if l.flow = flowLimit then throw .tooDeep
  let l ← l.saveKey
  pure ({ l with flow := l.flow + 1, keyAllowed := true }.take 1 t)

def closeFlow (l : Lexer) (t : Token) : Except ReadError Lexer := do
  let l ← l.dropKey
  pure ({ l with flow := l.flow - 1, keyAllowed := false }.take 1 t)

def flowEntry (l : Lexer) : Except ReadError Lexer := do
  let l ← { l with keyAllowed := true }.dropKey
  pure (l.take 1 .flowEntry)

def blockEntry (l : Lexer) : Except ReadError Lexer := do
  if !l.inFlow && !l.keyAllowed then throw .malformed
  let l := if l.inFlow then l else l.indentTo l.column (·.push .blockSequenceStart)
  let l ← { l with keyAllowed := true }.dropKey
  pure (l.take 1 .blockEntry)

def keyMark (l : Lexer) : Except ReadError Lexer := do
  if !l.inFlow && !l.keyAllowed then throw .malformed
  let l := if l.inFlow then l else l.indentTo l.column (·.push .blockMappingStart)
  let l ← { l with keyAllowed := !l.inFlow }.dropKey
  pure (l.take 1 .key)

def valueMark (l : Lexer) : Except ReadError Lexer :=
  match l.keys.lookup l.flow with
  | some k =>
    let l := { l with keys := l.keys.filter (·.1 ≠ l.flow) }.insertAt k.number .key
    let l := if l.inFlow then l
      else l.indentTo k.column (·.insertAt k.number .blockMappingStart)
    .ok ({ l with keyAllowed := false }.take 1 .value)
  | none => do
    if !l.inFlow && !l.keyAllowed then throw .malformed
    let l := if l.inFlow then l else l.indentTo l.column (·.push .blockMappingStart)
    let l ← { l with keyAllowed := !l.inFlow }.dropKey
    pure (l.take 1 .value)

/-- A token that may begin a key, with the place after it. -/
def keyPart (l : Lexer) (scan : Cursor → Except ReadError (Token × Cursor)) :
    Except ReadError Lexer := do
  let l ← l.saveKey
  let (t, c) ← scan l.cursor
  pure { l.push t with keyAllowed := false, cursor := c }

def quoted (l : Lexer) (quote : Char) : Except ReadError Lexer :=
  l.keyPart fun c => do
    let (t, c) ← quotedText quote (c.size + 1) c.next
    pure (.scalar (String.ofList t) false, c)

def plain (l : Lexer) : Except ReadError Lexer := do
  let l ← l.saveKey
  let (t, broken, c) :=
    plainText l.inFlow (l.indent + 1) (l.cursor.size + 1) [] false l.cursor
  pure { l.push (.scalar (String.ofList t) true) with keyAllowed := broken, cursor := c }

def block (l : Lexer) (isFolded : Bool) : Except ReadError Lexer := do
  let l ← { l with keyAllowed := true }.dropKey
  let (t, c) ← blockText isFolded l.indent l.cursor.next
  pure { l.push (.scalar (String.ofList t) false) with cursor := c }

def isIndicator (c : Char) : Bool :=
  c ∈ ['-', '?', ':', ',', '[', ']', '\x7b', '\x7d', '#', '&', '*', '!', '|', '>', '\'', '"', '%',
    '@', '\x60']

def startsPlain (l : Lexer) : Bool :=
  let ch := l.cursor.peek
  !(isBlankOrEnd ch || isIndicator ch) ||
    (!isBlankOrEnd (l.cursor.peekAt 1) &&
      (ch = '-' || (!l.inFlow && (ch = '?' || ch = ':'))))

/-- Whether a mark of one character stands alone here, as it always does in a flow collection. -/
def isLoneMark (l : Lexer) : Bool := l.inFlow || isBlankOrEnd (l.cursor.peekAt 1)

def token (l : Lexer) : Except ReadError Lexer :=
  let c := l.cursor
  let ch := c.peek
  let atStart := c.column = 0
  if ch = '%' ∧ atStart then do
    let l ← l.outside
    let (t, c) ← directive l.cursor
    pure { l.push t with cursor := c }
  else if atStart ∧ c.isMark '-' then do pure ((← l.outside).take 3 .documentStart)
  else if atStart ∧ c.isMark '.' then do pure ((← l.outside).take 3 .documentEnd)
  else if ch = '[' then l.openFlow .flowSequenceStart
  else if ch = '\x7b' then l.openFlow .flowMappingStart
  else if ch = ']' then l.closeFlow .flowSequenceEnd
  else if ch = '\x7d' then l.closeFlow .flowMappingEnd
  else if ch = ',' then l.flowEntry
  else if ch = '-' ∧ isBlankOrEnd (c.peekAt 1) then l.blockEntry
  else if ch = '?' ∧ l.isLoneMark then l.keyMark
  else if ch = ':' ∧ l.isLoneMark then l.valueMark
  else if ch = '*' then l.keyPart fun c => do
    let (n, c) ← anchorName c.next
    pure (.alias n, c)
  else if ch = '&' then l.keyPart fun c => do
    let (n, c) ← anchorName c.next
    pure (.anchor n, c)
  else if ch = '!' then l.keyPart tag
  else if ch = '|' ∧ ¬ l.inFlow then l.block false
  else if ch = '>' ∧ ¬ l.inFlow then l.block true
  else if ch = '\'' then l.quoted '\''
  else if ch = '"' then l.quoted '"'
  else if l.startsPlain then l.plain
  else .error .malformed

def fetch (l : Lexer) : Except ReadError Lexer := do
  let l ← (l.skipGap (l.cursor.size + 1)).dropStaleKeys
  let l := l.unwind l.column
  if l.cursor.rest.isEmpty then l.finish else l.token

/-- Whether more has to be found before a token can be handed out: a token at which a key may begin
waits until that is settled. -/
def waits (l : Lexer) : Bool :=
  l.queue.isEmpty || l.keys.any fun k => k.2.number = l.taken

def supply : (fuel : Nat) → Lexer → Except ReadError Lexer
  | 0, _ => .error .malformed
  | fuel + 1, l => do
    if l.ended then pure l
    else
      let l ← if l.queue.isEmpty then pure l else l.dropStaleKeys
      if l.waits then supply fuel (← l.fetch) else pure l

/-- The tokens that can be handed out, and what keeps the next one back. -/
def run : (fuel : Nat) → Lexer → List Token × ReadError
  | 0, _ => ([], .malformed)
  | fuel + 1, l =>
    match l.supply (l.cursor.size + 2) with
    | .error e => ([], e)
    | .ok l =>
      match l.queue[0]? with
      | none => ([], .malformed)
      | some t =>
        if t = .textEnd then ([t], .malformed)
        else
          let (ts, e) := run fuel { l with taken := l.taken + 1, queue := l.queue.drop 1 }
          (t :: ts, e)

end Lexer

/-- The tokens of a text. They end with the end of the text, or where something keeps the next token
back. -/
def tokens (s : List Char) : List Token × ReadError :=
  if s.all isAllowed then
    let s := if s.head? = some '\ufeff' then s.drop 1 else s
    Lexer.run (4 * s.length + 8) (.ofText s)
  else ([], .malformed)

@[simp] theorem Lexer.inFlow_ofText (s : List Char) : (Lexer.ofText s).inFlow = false := rfl

end Typeset.Yaml
