import Typeset.Number.Radix
import Typeset.Text.Utf8
import Typeset.Yaml.Cursor
import Typeset.Yaml.Token

/-!
Anchors, tags and directives as they are written.
-/

namespace Typeset.Yaml

open Text Config

def name (c : Cursor) : Except ReadError (String × Cursor) :=
  let (n, c) := c.takeWhile isNameChar
  if n.isEmpty then .error .malformed else .ok (String.ofList n, c)

def endsAnchor (c : Char) : Bool :=
  isBlankOrEnd c || c ∈ ['?', ':', ',', ']', '\x7d', '%', '@', '\x60']

def anchorName (c : Cursor) : Except ReadError (String × Cursor) := do
  let (n, c) ← name c
  if endsAnchor c.peek then pure (n, c) else throw .malformed

/-- Bytes that are given by two hexadecimal digits each. -/
def escapedBytes : (fuel : Nat) → Cursor → Except ReadError (List UInt8 × Cursor)
  | 0, _ => .error .malformed
  | fuel + 1, c =>
    if c.peek = '%' then
      match hexDigit? (c.peekAt 1), hexDigit? (c.peekAt 2) with
      | some a, some b => do
        let (bs, c) ← escapedBytes fuel (c.forward 3)
        pure (UInt8.ofNat (a * 16 + b) :: bs, c)
      | _, _ => .error .malformed
    else .ok ([], c)

def isTagChar (c : Char) : Bool :=
  isNameChar c || c ∈ [';', '/', '?', ':', '@', '&', '=', '+', '$', ',', '.', '!', '~', '*', '\'',
    '(', ')', '[', ']']

def tagChars : (fuel : Nat) → Cursor → Except ReadError (List Char × Cursor)
  | 0, _ => .error .malformed
  | fuel + 1, c =>
    if c.peek = '%' then do
      let (bs, c) ← escapedBytes (c.size + 1) c
      match Utf8.decodeStrict? bs with
      | none => throw .malformed
      | some cs =>
        let (more, c) ← tagChars fuel c
        pure (cs ++ more, c)
    else if isTagChar c.peek then do
      let (run, c) := c.takeWhile isTagChar
      let (more, c) ← tagChars fuel c
      pure (run ++ more, c)
    else .ok ([], c)

def tagText (c : Cursor) : Except ReadError (String × Cursor) := do
  let (cs, rest) ← tagChars (c.size + 1) c
  if rest.index = c.index then throw .malformed else pure (String.ofList cs, rest)

/-- The handle of a tag: one exclamation mark, or two with a name between them. -/
def tagHandle (c : Cursor) : Except ReadError (String × Cursor) :=
  if c.peek ≠ '!' then .error .malformed
  else
    let c := c.next
    if c.peek = ' ' then .ok ("!", c)
    else
      let (n, c) := c.takeWhile isNameChar
      if c.peek = '!' then .ok ("!" ++ String.ofList n ++ "!", c.next) else .error .malformed

def tag (c : Cursor) : Except ReadError (Token × Cursor) := do
  let (t, c) ←
    if c.peekAt 1 = '<' then do
      let (suffix, c) ← tagText (c.forward 2)
      if c.peek = '>' then pure (Token.tag none suffix, c.next) else throw .malformed
    else if isBlankOrEnd (c.peekAt 1) then pure (Token.tag none "!", c.next)
    else do
      let word := c.next.rest.takeWhile (!isSpaceOrEnd ·)
      let (handle, c) ← if '!' ∈ word then tagHandle c else pure ("!", c.next)
      let (suffix, c) ← tagText c
      pure (Token.tag (some handle) suffix, c)
  if isSpaceOrEnd c.peek then pure (t, c) else throw .malformed

def decimal (c : Cursor) : Except ReadError (Nat × Cursor) :=
  let (ds, c) := c.takeWhile isDigit
  if ds.isEmpty then .error .malformed
  else if digitLimit < ds.length then .error .numeralTooLong
  else .ok (ofDigits 10 (ds.filterMap asciiDigit?), c)

def version (c : Cursor) : Except ReadError (Directive × Cursor) := do
  let (major, c) ← decimal c
  if c.peek ≠ '.' then throw .malformed
  let (_, c) ← decimal c.next
  if isSpaceOrEnd c.peek then pure (.version major, c) else throw .malformed

def tagDirective (c : Cursor) : Except ReadError (Directive × Cursor) := do
  let (handle, c) ← tagHandle c
  if c.peek ≠ ' ' then throw .malformed
  let (stem, c) ← tagText (c.dropWhile (· = ' '))
  if isSpaceOrEnd c.peek then pure (.tag handle stem, c) else throw .malformed

def directive (c : Cursor) : Except ReadError (Token × Cursor) := do
  let (n, c) ← name c.next
  if !isSpaceOrEnd c.peek then throw .malformed
  let (d, c) ←
    if n = "YAML" then version (c.dropWhile (· = ' '))
    else if n = "TAG" then tagDirective (c.dropWhile (· = ' '))
    else pure (Directive.other, c.dropWhile (!isBreak ·))
  pure (.directive d, ← c.endOfLine)

end Typeset.Yaml
