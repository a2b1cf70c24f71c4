import Typeset.Console
import Typeset.Relay

/-!
Reading from a child: its two streams are relayed side by side, and every text is logged in the order
in which it was handed over. What arrives on one channel changes nothing on the other.
-/

namespace Typeset

open Text.Utf8

/-- Who listens to the two streams of a child. -/
structure Listeners where
  output : Listener
  errors : Listener
  deriving DecidableEq

/-- Listeners on both channels, none of which ever fails. -/
def Listeners.both : Listeners := ⟨.present none, .present none⟩

/-- How far the two streams of a child have been read. -/
structure Reading where
  output : Relay
  errors : Relay
  handed : List Write
  /-- The first exception that a listener raised, with its channel. -/
  raised : Option (Channel × String)
  deriving DecidableEq

namespace Reading

/-- The reading of a child from which nothing has arrived. -/
def ofListeners (l : Listeners) : Reading :=
  ⟨.ofListener l.output, .ofListener l.errors, [], none⟩

def relay (r : Reading) : Channel → Relay
  | .output => r.output
  | .error => r.errors

/-- The reading with the relay of a channel replaced, and a text that this handed over. -/
def update (r : Reading) (c : Channel) (next : Relay × Option String) : Reading :=
  let handed := r.handed ++ next.2.toList.map (Write.mk c)
  let raised := r.raised.or (next.1.raised.map (c, ·))
  match c with
  | .output => { r with output := next.1, handed, raised }
  | .error => { r with errors := next.1, handed, raised }

def receive (r : Reading) (c : Channel) (bs : Bytes) : Reading :=
  r.update c ((r.relay c).receive bs)

def receiveAll (r : Reading) (arrivals : List (Channel × Bytes)) : Reading :=
  arrivals.foldl (fun r a => r.receive a.1 a.2) r

def finish (r : Reading) (c : Channel) : Reading := r.update c (r.relay c).finish

def finishBoth (r : Reading) : Reading := (r.finish .output).finish .error

def failed (r : Reading) : Bool := r.raised.isSome

def texts (r : Reading) (c : Channel) : List String :=
  (r.handed.filter (·.channel = c)).map (·.text)

@[simp] theorem relay_update_self (r : Reading) (c : Channel) (next : Relay × Option String) :
    (r.update c next).relay c = next.1 := by
  cases c <;> rfl

theorem relay_update_of_ne (r : Reading) {c d : Channel} (h : d ≠ c)
    (next : Relay × Option String) : (r.update c next).relay d = r.relay d := by
  cases c <;> cases d <;> first | exact absurd rfl h | rfl

@[simp] theorem handed_update (r : Reading) (c : Channel) (next : Relay × Option String) :
    (r.update c next).handed = r.handed ++ next.2.toList.map (Write.mk c) := by
  cases c <;> rfl

@[simp] theorem raised_update (r : Reading) (c : Channel) (next : Relay × Option String) :
    (r.update c next).raised = r.raised.or (next.1.raised.map (c, ·)) := by
  cases c <;> rfl

end Reading
end Typeset
