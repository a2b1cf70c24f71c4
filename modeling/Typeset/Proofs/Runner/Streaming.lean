import Typeset.Proofs.Runner.Delivery
import Typeset.Proofs.Text.Withholding

/-!
# Streaming

At any time a relay has handed over the text of the bytes that it was given, but for an end of at most
three bytes that waits for others. What it hands over is never taken back, whatever arrives later. So
who is cancelled in the middle has heard nothing that the whole stream would not have told.
-/

namespace Typeset

open Text.Utf8

namespace Relay
variable {r : Relay} {ts : List String} {bs : Bytes} {o : Option Objection}

theorem receiveAll_append (r : Relay) (front rest : List Bytes) :
    r.receiveAll (front ++ rest) =
      (((r.receiveAll front).1.receiveAll rest).1,
        (r.receiveAll front).2 ++ ((r.receiveAll front).1.receiveAll rest).2) := by
  induction front generalizing r with
  | nil => rfl
  | cons bs front ih =>
    rw [List.cons_append, receiveAll, ih, receiveAll]
    simp only [List.append_assoc]

theorem receiveAll_of_failed (h : r.failed = true) (pieces : List Bytes) :
    r.receiveAll pieces = (r, []) := by
  induction pieces with
  | nil => rfl
  | cons bs rest ih => rw [receiveAll, receive_of_failed h, ih]; rfl

theorem prefix_texts (r : Relay) (front rest : List Bytes) :
    (r.receiveAll front).2 <+: r.texts (front ++ rest) := by
  rw [texts_eq_receiveAll, receiveAll_append, List.append_assoc]
  exact List.prefix_append _ _

/-- The texts are what the bytes lead to, and what they leave over is withheld. -/
structure Follows (r : Relay) (ts : List String) (bs : Bytes) : Prop where
  text_eq : ts.flatMap String.toList = (feed bs).1
  withheld_eq : r.withheld = (feed bs).2

theorem follows_ofListener (l : Listener) : (ofListener l).Follows [] [] :=
  ⟨by simp, by simp [ofListener]⟩

namespace Follows

theorem receive (hl : r.listener = .present o) (h : r.Follows ts bs) (hf : r.failed = false)
    (cs : Bytes) : (r.receive cs).1.Follows (ts ++ (r.receive cs).2.toList) (bs ++ cs) := by
  obtain ⟨htext, hwithheld⟩ := h
  constructor
  · rw [feed_append, List.flatMap_append, htext, ← hwithheld]
    simp [Relay.receive, hf, flatMap_hand, hl]
  · rw [feed_append, ← hwithheld]
    simp [Relay.receive, hf]

theorem receiveAll (hl : r.listener = .present o) (h : r.Follows ts bs)
    (pieces : List Bytes) :
    ∃ read, read <+: pieces ∧ ((r.receiveAll pieces).1.failed = false → read = pieces) ∧
      (r.receiveAll pieces).1.Follows (ts ++ (r.receiveAll pieces).2) (bs ++ read.flatten) := by
  induction pieces generalizing r ts bs with
  | nil => exact ⟨[], List.prefix_rfl, fun _ => rfl, by simpa [Relay.receiveAll] using h⟩
  | cons cs rest ih =>
    cases hf : r.failed with
    | true =>
      rw [receiveAll_of_failed hf]
      exact ⟨[], List.nil_prefix, fun hr => by simp [hf] at hr, by simpa using h⟩
    | false =>
      obtain ⟨read, hread, hall, hfollows⟩ :=
        ih ((listener_receive r cs).trans hl) (h.receive hl hf cs)
      refine ⟨cs :: read, (List.prefix_cons_inj cs).2 hread, fun hr => by rw [hall hr], ?_⟩
      simpa only [Relay.receiveAll, List.append_assoc, List.flatten_cons] using hfollows

theorem prefix_decode (h : r.Follows ts bs) (cs : Bytes) :
    ts.flatMap String.toList <+: decode (bs ++ cs) := by
  rw [h.text_eq, decode_append]
  exact List.prefix_append _ _

end Follows

/-- What a listener was told after some pieces is the beginning of the text of all of them, and of more. -/
theorem flatMap_receiveAll_prefix_decode (hl : r.listener = .present o) (h : r.Follows [] [])
    {front pieces : List Bytes} (hp : front <+: pieces) (more : Bytes) :
    (r.receiveAll front).2.flatMap String.toList <+: decode (pieces.flatten ++ more) := by
  obtain ⟨read, hread, -, hfollows⟩ := h.receiveAll hl front
  obtain ⟨rest, rfl⟩ := hread.trans hp
  have hprefix := hfollows.prefix_decode (rest.flatten ++ more)
  rwa [List.nil_append, List.nil_append, ← List.append_assoc, ← List.flatten_append] at hprefix

end Relay

namespace Reading

theorem prefix_piecesOn (ch : Channel) {front arrivals : List (Channel × Bytes)}
    (h : front <+: arrivals) : piecesOn ch front <+: piecesOn ch arrivals := by
  obtain ⟨rest, rfl⟩ := h
  rw [piecesOn, piecesOn, List.filter_append, List.map_append]
  exact List.prefix_append _ _

/-- Whoever listens has heard nothing but the beginning of what is to be heard in the end. -/
theorem join_texts_receiveAll_prefix_decode {l : Listeners} {ch : Channel} (hl : l.on ch ≠ .absent)
    {front arrivals : List (Channel × Bytes)} (h : front <+: arrivals) (more : Bytes) :
    (String.join (((ofListeners l).receiveAll front).texts ch)).toList <+:
      decode ((piecesOn ch arrivals).flatten ++ more) := by
  have hstart : (ofListeners l).relay ch = Relay.ofListener (l.on ch) := by cases ch <;> rfl
  obtain ⟨o, hp⟩ : ∃ o, l.on ch = .present o := by
    cases h : l.on ch with
    | absent => exact absurd h hl
    | present o => exact ⟨o, rfl⟩
  have hlistener : (Relay.ofListener (l.on ch)).listener = .present o := hp
  have hnone : (ofListeners l).texts ch = [] := rfl
  rw [(relay_receiveAll _ ch front).2, hnone, hstart, List.nil_append, String.toList_join]
  exact Relay.flatMap_receiveAll_prefix_decode hlistener (Relay.follows_ofListener _)
    (prefix_piecesOn ch h) more

end Reading

namespace Runner
variable {r : Runner} {c : Child} {t : ProcessTable} {l : Listeners} {i : Option Interruption}

theorem reading_of_abandon_cancelled {reading : Reading} {cause : Raised}
    (h : (r.abandon c t reading cause).conclusion = .raised .cancelled) :
    (r.abandon c t reading cause).reading = reading := by
  simp only [abandon] at h ⊢
  split
  · rename_i hn
    simp [hn] at h
  · rename_i hn
    rw [if_neg hn] at h
    split
    · rename_i hr
      simp [hr] at h
    · rename_i hr
      rw [if_neg hr] at h
      cases h
      simp

theorem conclusion_conclude_ne_cancelled (r : Runner) (c : Child) (t : ProcessTable)
    (reading : Reading) : (r.conclude c t reading).conclusion ≠ .raised .cancelled := by
  intro h
  simp only [conclude] at h
  split at h
  · simp only [abandon] at h
    split at h
    · cases h
    · split at h <;> cases h
  · cases h

/-- A cancelled run has read some of what arrived, and nothing was made of the end of a stream. -/
theorem reading_of_cancelled (h : (r.supervise c t l i).conclusion = .raised .cancelled) :
    ∃ front, front <+: c.arrivals ∧
      (r.supervise c t l i).reading = (Reading.ofListeners l).receiveAll front := by
  cases hi : cutAfter? c i with
  | some n =>
    simp only [supervise, hi, cutShort] at h ⊢
    exact ⟨_, List.take_prefix n c.arrivals, reading_of_abandon_cancelled h⟩
  | none =>
    simp only [supervise, hi, settle] at h ⊢
    refine ⟨_, List.prefix_rfl, ?_⟩
    split
    · rename_i ho
      rw [if_pos ho] at h
      exact absurd h (conclusion_conclude_ne_cancelled _ _ _ _)
    · rename_i ho
      rw [if_neg ho] at h
      split
      · rename_i hr
        simp only [hr] at h
        exact reading_of_abandon_cancelled h
      · rename_i hr
        simp only [hr] at h
        cases i with
        | none => cases h
        | some i =>
          cases i with
          | cancelAfter n => cases h
          | cancel => exact reading_of_abandon_cancelled h
          | terminate =>
            simp only [interrupted] at h
            split at h
            · cases h
            · exact absurd h (conclusion_conclude_ne_cancelled _ _ _ _)

/-- Output is handed over promptly and never taken back. After any number of reads, of pieces of any
size, a listener has been told the text of the bytes read, less an end of at most three bytes that
waits for others; a listener that fails is told nothing more, and then no more is read. What it was
told is the beginning of what it is told in the end, and of the text of the whole stream. So
in a run that is cancelled, nobody has heard anything but the beginning of what the child wrote and
might yet have written. -/
theorem streams_promptly {size : Nat} (hs : 0 < size) (chunks : List Bytes)
    (o : Option Objection) (n : Nat) :
    let pieces := Relay.pieces size chunks
    let relay := Relay.ofListener (.present o)
    let seen := relay.receiveAll (pieces.take n)
    let told := seen.2.flatMap String.toList
    (∃ read sent, read <+: pieces.take n ∧ (seen.1.failed = false → read = pieces.take n) ∧
      read.flatten = sent ++ seen.1.withheld ∧ told = decode sent) ∧
    Waits seen.1.withheld ∧ seen.1.withheld.length ≤ 3 ∧
    told <+: (relay.texts pieces).flatMap String.toList ∧ told <+: decode chunks.flatten ∧
    ∀ (r : Runner) (p : Plan) (c : Child) (t : ProcessTable) (l : Listeners)
      (i : Option Interruption),
      (r.run p (.started c) t l i).conclusion = .raised .cancelled →
      ∀ ch, l.on ch ≠ .absent → ∀ more,
        (String.join ((r.run p (.started c) t l i).reading.texts ch)).toList <+:
          decode (c.bytesOn ch ++ more) := by
  intro pieces relay seen told
  have hl : relay.listener = .present o := rfl
  have hstart : relay.Follows [] [] := Relay.follows_ofListener _
  obtain ⟨read, hread, hall, htext, hwithheld⟩ := hstart.receiveAll hl (pieces.take n)
  rw [List.nil_append] at htext hwithheld
  obtain ⟨sent, hsent, hdecode⟩ := exists_decode_eq_feed read.flatten
  have hwaits : Waits seen.1.withheld := by
    rw [hwithheld]
    exact waits_feed _
  refine ⟨⟨read, sent, hread, hall, ?_, ?_⟩, hwaits, hwaits.length_le, ?_, ?_, ?_⟩
  · rw [hwithheld]
    exact hsent
  · exact htext.trans hdecode
  · have hprefix := relay.prefix_texts (pieces.take n) (pieces.drop n)
    rw [List.take_append_drop] at hprefix
    obtain ⟨rest, hrest⟩ := hprefix
    rw [← hrest, List.flatMap_append]
    exact List.prefix_append _ _
  · have hprefix := Relay.flatMap_receiveAll_prefix_decode hl hstart (List.take_prefix n pieces) []
    rwa [List.append_nil, Relay.flatten_pieces hs] at hprefix
  · intro r p c t l i h ch hch more
    obtain ⟨front, hfront, hreading⟩ := reading_of_cancelled h
    have hreading : (r.run p (.started c) t l i).reading =
        (Reading.ofListeners l).receiveAll front := hreading
    rw [hreading]
    exact Reading.join_texts_receiveAll_prefix_decode hch hfront more

/-- Two reads of a sign of three bytes: nothing of it is told yet. -/
theorem streams_promptly_euro :
    0 < 1 ∧
      let seen := (Relay.ofListener (.present none)).receiveAll
        ((Relay.pieces 1 [[0xe2, 0x82, 0xac]]).take 2)
      seen.1.withheld.length ≤ 3 ∧
        seen.2.flatMap String.toList <+: decode [[0xe2, 0x82, 0xac]].flatten := by
  obtain ⟨-, -, hlength, -, hprefix, -⟩ :=
    streams_promptly (Nat.one_pos) [[0xe2, 0x82, 0xac]] none 2
  exact ⟨Nat.one_pos, hlength, hprefix⟩

/-- The first two bytes of a surrogate are withheld too. They begin no encoding of any text, so they
would have to be told at once. -/
theorem surrogate_withheld :
    let seen := (Relay.ofListener (.present none)).receiveAll [[0xed, 0xa0]]
    ¬∃ sent withheld, [0xed, 0xa0] = sent ++ withheld ∧
      seen.2.flatMap String.toList = decode sent ∧ withheld.length ≤ 3 ∧
      ∃ s, withheld <+: encode s ∧ withheld ≠ encode s := by
  rintro seen ⟨sent, withheld, hbytes, htold, -, s, hprefix, -⟩
  have hbegins : beginsSurrogate [0xed, 0xa0] = true := by decide
  have hfollows := (Relay.follows_ofListener (.present none)).receive rfl rfl [0xed, 0xa0]
  have hnothing : seen.2.flatMap String.toList = [] := by
    have hseen : seen.2 = ((Relay.ofListener (.present none)).receive [0xed, 0xa0]).2.toList :=
      List.append_nil _
    have htext := hfollows.text_eq
    rwa [List.nil_append, List.nil_append, feed_of_beginsSurrogate hbegins, ← hseen] at htext
  -- so all bytes are withheld
  obtain rfl := eq_nil_of_decode_eq_nil (htold.symm.trans hnothing)
  rw [List.nil_append] at hbytes
  rw [← hbytes] at hprefix
  exact not_prefix_encode hbegins s hprefix

end Runner
end Typeset
