import Typeset.Text.Utf8

/-!
Relays: the bytes of a stream are handed to a listener as text, piece by piece as they arrive. Bytes
that later ones may complete to a character are withheld until then, or until the stream ends. A
listener that raises an exception gets nothing more.
-/

namespace Typeset

open Text Utf8

/-- An exception, and the number of the call that raises it. -/
structure Objection where
  call : Nat
  exception : String
  deriving DecidableEq

inductive Listener
  | absent
  /-- It takes every text, up to the one that it objects to. -/
  | present (objection : Option Objection)
  deriving DecidableEq

/-- A stream on its way to a listener. -/
structure Relay where
  listener : Listener
  withheld : Bytes
  calls : Nat
  /-- What the listener has raised. -/
  raised : Option String
  deriving DecidableEq

namespace Relay

def ofListener (l : Listener) : Relay := ⟨l, [], 0, none⟩

def failed (r : Relay) : Bool := r.raised.isSome

/-- Hands a text to the listener; an empty one is not worth a call. -/
def hand (r : Relay) (s : List Char) : Relay × Option String :=
  match r.listener, s with
  | .absent, _ => (r, none)
  | .present _, [] => (r, none)
  | .present objection, c :: s =>
    let calls := r.calls + 1
    ({ r with calls, raised := (objection.filter (·.call = calls)).map (·.exception) },
      some (String.ofList (c :: s)))

/-- Takes the next bytes, and tells which text they led to. -/
def receive (r : Relay) (bs : Bytes) : Relay × Option String :=
  if r.failed then (r, none)
  else
    let (text, rest) := feed (r.withheld ++ bs)
    hand { r with withheld := rest } text

/-- Takes the end of the stream: what was withheld is no character. -/
def finish (r : Relay) : Relay × Option String :=
  if r.failed then (r, none) else hand { r with withheld := [] } (decode r.withheld)

/-- The texts that a stream of pieces leads to, up to its end. -/
def texts (r : Relay) : List Bytes → List String
  | [] => r.finish.2.toList
  | bs :: rest => (r.receive bs).2.toList ++ texts (r.receive bs).1 rest

/-- Cuts bytes into pieces of at most `size`; there are none of size zero. -/
def cut (size : Nat) (bs : Bytes) : List Bytes :=
  if _h : size = 0 ∨ bs = [] then [] else bs.take size :: cut size (bs.drop size)
termination_by bs.length
decreasing_by
  have : bs.length ≠ 0 := fun h => _h (.inr (List.length_eq_zero_iff.1 h))
  simp only [List.length_drop]
  omega

/-- The pieces that chunks are read in. A piece never joins two chunks. -/
def pieces (size : Nat) (chunks : List Bytes) : List Bytes := chunks.flatMap (cut size)

@[simp] theorem listener_hand (r : Relay) (s : List Char) :
    (r.hand s).1.listener = r.listener := by
  unfold hand
  split <;> simp_all

@[simp] theorem withheld_hand (r : Relay) (s : List Char) :
    (r.hand s).1.withheld = r.withheld := by
  unfold hand
  split <;> simp_all

@[simp] theorem receive_of_failed {r : Relay} (h : r.failed = true) (bs : Bytes) :
    r.receive bs = (r, none) := by
  simp [receive, h]

@[simp] theorem finish_of_failed {r : Relay} (h : r.failed = true) : r.finish = (r, none) := by
  simp [finish, h]

theorem failed_of_raised {r : Relay} {e : String} (h : r.raised = some e) : r.failed = true := by
  simp [failed, h]

@[simp] theorem cut_nil (size : Nat) : cut size [] = [] := by
  rw [cut]; simp

theorem flatten_cut {size : Nat} (h : 0 < size) (bs : Bytes) : (cut size bs).flatten = bs := by
  fun_induction cut size bs with
  | case1 bs hb => rcases hb with hb | hb <;> simp_all
  | case2 bs hb ih => simp [ih]

theorem flatten_pieces {size : Nat} (h : 0 < size) (chunks : List Bytes) :
    (pieces size chunks).flatten = chunks.flatten := by
  induction chunks with
  | nil => rfl
  | cons c cs ih =>
    show (cut size c ++ pieces size cs).flatten = _
    simp [flatten_cut h, ih]

end Relay
end Typeset
