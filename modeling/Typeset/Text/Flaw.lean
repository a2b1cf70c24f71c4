import Typeset.Text.Literal
import Typeset.Text.Utf8

/-!
Flaws of byte sequences: where the first part stands that is no UTF-8, and why it is none.
-/

namespace Typeset.Text.Utf8

inductive FlawKind
  | start
  | continuation
  | ending
  deriving DecidableEq

structure Flaw where
  position : Nat
  bytes : Bytes
  kind : FlawKind
  deriving DecidableEq

namespace Flaw

def reason : FlawKind → String
  | .start => "invalid start byte"
  | .continuation => "invalid continuation byte"
  | .ending => "unexpected end of data"

def subject (f : Flaw) : String :=
  match f.bytes with
  | [b] => "byte 0x" ++ String.ofList (Literal.hex 2 b.toNat) ++ " in position " ++ toString f.position
  | bs => "bytes in position " ++ toString f.position ++ "-" ++ toString (f.position + bs.length - 1)

def message (f : Flaw) : String :=
  "'utf-8' codec can't decode " ++ f.subject ++ ": " ++ reason f.kind

/-- The flaw that stands at the front of a sequence with `rest` behind it. -/
def atFront (position : Nat) (bs rest : Bytes) : Flaw :=
  ⟨position, bs.take (bs.length - rest.length),
    if ((bs.head?).bind lead?).isNone then .start else .continuation⟩

end Flaw

/-- The first flaw of a sequence that begins at a position. -/
def flawFrom? (position : Nat) (bs : Bytes) : Option Flaw :=
  match _h : front bs with
  | .finished => none
  | .char _ rest => flawFrom? (position + (bs.length - rest.length)) rest
  | .malformed rest => some (.atFront position bs rest)
  | .cut => some ⟨position, bs, .ending⟩
termination_by bs.length
decreasing_by exact front_char_length _h

def read (bs : Bytes) : Except Flaw (List Char) :=
  match decodeStrict? bs, flawFrom? 0 bs with
  | some s, _ => .ok s
  | none, some f => .error f
  | none, none => .ok []

end Typeset.Text.Utf8
