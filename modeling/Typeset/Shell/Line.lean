import Typeset.Shell.Machine
import Typeset.Shell.Options

/-!
Lines that the shell reads into variables. A line falls into fields at separators; the last variable takes
all that is left, separators between fields included.
-/

namespace Typeset.Shell.Line

open Text.Utf8 Act

/-- A part of a line: a character, which may separate fields unless a backslash protects it, or the place of
a line end that a backslash has taken away. -/
inductive Part
  | char (c : Char) (splits : Bool)
  | seam

/-- The line in front, whether it is complete, and what follows it. A NUL is passed over. -/
def scan (raw : Bool) : Bytes → List Part × Bool × Bytes
  | [] => ([], false, [])
  | b :: rest =>
    if b = 0 then scan raw rest
    else if b = 10 then ([], true, rest)
    else if b = 92 ∧ !raw then
      match rest with
      | [] => ([], false, [])
      | c :: rest =>
        let (line, complete, behind) := scan raw rest
        ((if c = 10 then .seam else .char (Octets.ofByte c) false) :: line, complete, behind)
    else
      let (line, complete, behind) := scan raw rest
      (.char (Octets.ofByte b) true :: line, complete, behind)

/-- How far a line has been taken apart: how many fields may still come, what has been read of the current
one, last character first, at which length it is cut if nothing follows, and whether blanks stand in front
of what follows. -/
structure Place where
  left : Nat
  field : List Char
  cut : Option Nat
  behindBlank : Bool

def Place.last (p : Place) : List String :=
  let text := p.field.reverse
  let text := match p.cut with
    | some n => text.take n
    | none => text
  if text.isEmpty then [] else [String.ofList text]

def isBlank (c : Char) : Bool := c = ' ' || c = '\t' || c = '\n'

def fields (separates : Char → Bool) (p : Place) : List Part → List String
  | [] => p.last
  | .seam :: rest => fields separates { p with behindBlank := false } rest
  | .char c false :: rest =>
    fields separates { p with field := c :: p.field, behindBlank := false } rest
  | .char c true :: rest =>
    let isBlank := separates c && isBlank c
    if p.left = 0 then
      let longer := { p with field := c :: p.field }
      if isBlank then
        fields separates { longer with cut := p.cut.orElse fun _ => some p.field.length } rest
      else
        fields separates
          { longer with cut := if separates c && p.behindBlank then p.cut else none,
                        behindBlank := false } rest
    else if p.behindBlank then
      if isBlank then fields separates { p with field := [] } rest
      else
        fields separates
          { p with field := if separates c then [] else [c], behindBlank := false } rest
    else if !separates c then fields separates { p with field := c :: p.field } rest
    else if isBlank && p.field.isEmpty then fields separates p rest
    else if p.left = 1 then
      fields separates ⟨0, c :: p.field, some p.field.length, isBlank⟩ rest
    else String.ofList p.field.reverse :: fields separates ⟨p.left - 1, [], none, isBlank⟩ rest

/-- Gives fields to variables; those for which there is none become empty. -/
def giveOut : List String → List String → Act Unit
  | _, [] => pure ()
  | fields, name :: names => do
    checkName name
    assign name (fields.headD "")
    giveOut (fields.drop 1) names

def read (words : List String) : Act Unit := do
  match Options.read [('p', true), ('r', false)] words with
  | .error e => fail e
  | .ok (_, []) => fail "arg count"
  | .ok (found, names) => do
    let bytes ← awaitInput 0
    let (line, complete, rest) := scan (found.lookup 'r').isSome bytes
    modify (·.leave 0 rest)
    let separators := ((← valueOf "IFS").getD " \t\n").toList
    giveOut (fields (· ∈ separators) ⟨names.length, [], none, false⟩ line) names
    setStatus (if complete then 0 else 1)

end Typeset.Shell.Line
