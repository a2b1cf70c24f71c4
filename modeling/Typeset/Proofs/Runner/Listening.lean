import Typeset.Runner.Reading

/-!
# Listening

A listener is called once for every text of its channel and objects at the call of its own number. So
whether a listener has failed, and with what, can be told from the texts of its channel.
-/

namespace Typeset

/-- A relay that has called the listener `l` for `n` texts. -/
structure Relay.Heeds (r : Relay) (l : Listener) (n : Nat) : Prop where
  listener_eq : r.listener = l
  calls_eq : r.calls = n
  raised_iff : ∀ e, r.raised = some e ↔ 0 < n ∧ l = .present (some ⟨n, e⟩)

namespace Relay
variable {r : Relay} {l : Listener} {n : Nat}

theorem heeds_ofListener (l : Listener) : (ofListener l).Heeds l 0 :=
  ⟨rfl, rfl, fun e => by simp [ofListener]⟩

namespace Heeds

theorem hand (h : r.Heeds l n) (s : List Char) :
    (r.hand s).1.Heeds l (n + (r.hand s).2.toList.length) := by
  obtain ⟨rfl, rfl, hi⟩ := h
  unfold Relay.hand
  split
  · exact ⟨rfl, rfl, hi⟩
  · exact ⟨rfl, rfl, hi⟩
  · rename_i objection c s he
    refine ⟨rfl, rfl, fun e => ?_⟩
    cases objection with
    | none => simp [he]
    | some o =>
      obtain ⟨call, exception⟩ := o
      by_cases hcall : call = r.calls + 1 <;> simp [he, hcall, Option.filter]

theorem withhold (h : r.Heeds l n) (bs : Text.Utf8.Bytes) : { r with withheld := bs }.Heeds l n :=
  ⟨h.listener_eq, h.calls_eq, h.raised_iff⟩

theorem receive (h : r.Heeds l n) (bs : Text.Utf8.Bytes) :
    (r.receive bs).1.Heeds l (n + (r.receive bs).2.toList.length) := by
  unfold Relay.receive
  split
  · exact h
  · exact (h.withhold _).hand _

theorem finish (h : r.Heeds l n) : r.finish.1.Heeds l (n + r.finish.2.toList.length) := by
  unfold Relay.finish
  split
  · exact h
  · exact (h.withhold _).hand _

end Heeds
end Relay

namespace Listeners

def on (l : Listeners) : Channel → Listener
  | .output => l.output
  | .error => l.errors

/-- The last text on a channel is the one that its listener objects to, with an exception. -/
def FailIn (l : Listeners) (r : Reading) (c : Channel) (e : String) : Prop :=
  r.texts c ≠ [] ∧ l.on c = .present (some ⟨(r.texts c).length, e⟩)

end Listeners

namespace Reading
variable {r : Reading} {l : Listeners}

/-- Every relay has called its listener for every text of its channel, and the first exception that came
of it is known. -/
structure Heeds (r : Reading) (l : Listeners) : Prop where
  relay : ∀ c, (r.relay c).Heeds (l.on c) (r.texts c).length
  relay_raised : ∀ c e, r.raised = some (c, e) → (r.relay c).raised = some e
  failed : ∀ c, (r.relay c).failed = true → r.failed = true

theorem texts_update_self (r : Reading) (c : Channel) (next : Relay × Option String) :
    (r.update c next).texts c = r.texts c ++ next.2.toList := by
  cases h : next.2 <;> simp [texts, h]

theorem texts_update_of_ne (r : Reading) {c d : Channel} (hd : d ≠ c)
    (next : Relay × Option String) : (r.update c next).texts d = r.texts d := by
  cases h : next.2 <;> simp [texts, h, hd.symm]

theorem heeds_ofListeners (l : Listeners) : (ofListeners l).Heeds l := by
  refine ⟨fun c => ?_, ?_, fun c h => ?_⟩
  · cases c <;> exact Relay.heeds_ofListener _
  · rintro c e ⟨⟩
  · cases c <;> cases h

theorem raised_eq_none (h : r.failed = false) : r.raised = none := by
  simpa [failed] using h

namespace Heeds

theorem update (h : r.Heeds l) (c : Channel) {next : Relay × Option String}
    (hn : next.1.Heeds (l.on c) ((r.texts c).length + next.2.toList.length))
    (hk : ∀ e, (r.relay c).raised = some e → next.1.raised = some e) :
    (r.update c next).Heeds l := by
  refine ⟨fun d => ?_, fun d e he => ?_, fun d hf => ?_⟩
  · by_cases hd : d = c
    · subst hd
      rw [relay_update_self, texts_update_self, List.length_append]
      exact hn
    · rw [relay_update_of_ne r hd, texts_update_of_ne r hd]
      exact h.relay d
  · rw [raised_update, Option.or_eq_some_iff] at he
    by_cases hd : d = c
    · subst hd
      rw [relay_update_self]
      rcases he with he | ⟨-, he⟩
      · exact hk e (h.relay_raised d e he)
      · obtain ⟨_, hnext, ⟨⟩⟩ := Option.map_eq_some_iff.1 he
        exact hnext
    · rw [relay_update_of_ne r hd]
      rcases he with he | ⟨-, he⟩
      · exact h.relay_raised d e he
      · obtain ⟨_, -, ⟨⟩⟩ := Option.map_eq_some_iff.1 he
        exact absurd rfl hd
  · rw [Reading.failed, raised_update, Option.isSome_or, Bool.or_eq_true]
    by_cases hd : d = c
    · subst hd
      rw [relay_update_self] at hf
      exact .inr (by simpa [Relay.failed] using hf)
    · rw [relay_update_of_ne r hd] at hf
      exact .inl (h.failed d hf)

theorem receive (h : r.Heeds l) (c : Channel) (bs : Text.Utf8.Bytes) : (r.receive c bs).Heeds l := by
  refine h.update c ((h.relay c).receive bs) fun e he => ?_
  rwa [Relay.receive_of_failed (Relay.failed_of_raised he)]

theorem finish (h : r.Heeds l) (c : Channel) : (r.finish c).Heeds l := by
  refine h.update c (h.relay c).finish fun e he => ?_
  rwa [Relay.finish_of_failed (Relay.failed_of_raised he)]

theorem finishBoth (h : r.Heeds l) : r.finishBoth.Heeds l := (h.finish .output).finish .error

theorem receiveAll (h : r.Heeds l) (arrivals : List (Channel × Text.Utf8.Bytes)) :
    (r.receiveAll arrivals).Heeds l := by
  induction arrivals generalizing r with
  | nil => exact h
  | cons a rest ih => exact ih (h.receive a.1 a.2)

theorem relay_raised_iff (h : r.Heeds l) (c : Channel) (e : String) :
    (r.relay c).raised = some e ↔ l.FailIn r c e := by
  rw [(h.relay c).raised_iff, Listeners.FailIn, List.length_pos_iff]

theorem failIn_of_raised (h : r.Heeds l) {c : Channel} {e : String} (hr : r.raised = some (c, e)) :
    l.FailIn r c e :=
  (h.relay_raised_iff c e).1 (h.relay_raised c e hr)

theorem failed_eq_false (h : r.Heeds l) (hl : ∀ c e, ¬l.FailIn r c e) : r.failed = false := by
  rw [Reading.failed, Option.isSome_eq_false_iff, Option.isNone_iff_eq_none]
  cases hr : r.raised with
  | none => rfl
  | some p => exact absurd (h.failIn_of_raised hr) (hl p.1 p.2)

end Heeds
end Reading
end Typeset
