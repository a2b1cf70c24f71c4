import Typeset.Proofs.Runner.Interruption
import Typeset.Proofs.Text.Pieces

/-!
# Delivery of output

A relay hands over the text of all the bytes that it was given, but for those that it withholds. So
at the end of its stream it has handed over the text of the whole stream, in whatever pieces that
arrived. A reading is two relays side by side, and what one of them hands over does not depend on the
other.
-/

namespace Typeset

open Text.Utf8

namespace Relay
variable {r : Relay} {ts : List String} {bs : Bytes} {o : Option Objection}

def receiveAll (r : Relay) : List Bytes → Relay × List String
  | [] => (r, [])
  | bs :: rest =>
    let next := receiveAll (r.receive bs).1 rest
    (next.1, (r.receive bs).2.toList ++ next.2)

theorem texts_eq_receiveAll (r : Relay) (pieces : List Bytes) :
    r.texts pieces = (r.receiveAll pieces).2 ++ (r.receiveAll pieces).1.finish.2.toList := by
  induction pieces generalizing r with
  | nil => rfl
  | cons bs rest ih => rw [texts, ih, receiveAll, List.append_assoc]

theorem listener_receive (r : Relay) (bs : Bytes) : (r.receive bs).1.listener = r.listener := by
  unfold receive
  split
  · rfl
  · exact listener_hand _ _

theorem failed_of_receive (h : (r.receive bs).1.failed = false) : r.failed = false := by
  cases hf : r.failed with
  | false => rfl
  | true =>
    rw [receive_of_failed hf, hf] at h
    exact h

theorem failed_of_finish (h : r.finish.1.failed = false) : r.failed = false := by
  cases hf : r.failed with
  | false => rfl
  | true =>
    rw [finish_of_failed hf, hf] at h
    exact h

theorem listener_receiveAll (r : Relay) (pieces : List Bytes) :
    (r.receiveAll pieces).1.listener = r.listener := by
  induction pieces generalizing r with
  | nil => rfl
  | cons bs rest ih => exact (ih _).trans (listener_receive r bs)

theorem failed_of_receiveAll {pieces : List Bytes} (h : (r.receiveAll pieces).1.failed = false) :
    r.failed = false := by
  induction pieces generalizing r with
  | nil => exact h
  | cons bs rest ih => exact failed_of_receive (ih h)

theorem ne_empty_of_hand {s : List Char} {text : String} (h : text ∈ (r.hand s).2) : text ≠ "" := by
  unfold hand at h
  split at h
  · cases h
  · cases h
  · cases h
    simp

theorem ne_empty_of_receive {text : String} (h : text ∈ (r.receive bs).2) : text ≠ "" := by
  unfold receive at h
  split at h
  · cases h
  · exact ne_empty_of_hand h

theorem ne_empty_of_finish {text : String} (h : text ∈ r.finish.2) : text ≠ "" := by
  unfold finish at h
  split at h
  · cases h
  · exact ne_empty_of_hand h

theorem empty_notMem_texts (r : Relay) (pieces : List Bytes) : "" ∉ r.texts pieces := by
  induction pieces generalizing r with
  | nil => exact fun h => ne_empty_of_finish (Option.mem_toList.1 h) rfl
  | cons bs rest ih =>
    rw [texts, List.mem_append]
    rintro (h | h)
    · exact ne_empty_of_receive (Option.mem_toList.1 h) rfl
    · exact ih _ h

theorem hand_of_absent (h : r.listener = .absent) (s : List Char) : r.hand s = (r, none) := by
  unfold hand
  rw [h]

theorem texts_of_absent (h : r.listener = .absent) (pieces : List Bytes) : r.texts pieces = [] := by
  induction pieces generalizing r with
  | nil =>
    simp only [texts, finish]
    split
    · rfl
    · simp [hand_of_absent, h]
  | cons bs rest ih =>
    rw [texts, ih ((listener_receive r bs).trans h), receive]
    split
    · rfl
    · simp [hand_of_absent, h]

/-- The texts are those of all the bytes, but for the ones withheld. -/
def Conveys (r : Relay) (ts : List String) (bs : Bytes) : Prop :=
  ∀ cs, ts.flatMap String.toList ++ decode (r.withheld ++ cs) = decode (bs ++ cs)

theorem conveys_ofListener (l : Listener) : (ofListener l).Conveys [] [] := fun _ => rfl

section Present
variable (hl : r.listener = .present o)
include hl

theorem flatMap_hand (s : List Char) : (r.hand s).2.toList.flatMap String.toList = s := by
  cases s with
  | nil => simp [hand, hl]
  | cons c s => simp [hand, hl]

theorem Conveys.receive (h : r.Conveys ts bs) {cs : Bytes} (hf : (r.receive cs).1.failed = false) :
    (r.receive cs).1.Conveys (ts ++ (r.receive cs).2.toList) (bs ++ cs) := by
  have hr := failed_of_receive hf
  -- what was withheld stands before the new bytes, and both are fed together
  intro ds
  have hd : decode (r.withheld ++ (cs ++ ds)) = (feed (r.withheld ++ cs)).1 ++
      decode ((feed (r.withheld ++ cs)).2 ++ ds) := by
    rw [← List.append_assoc, decode_append]
  rw [List.append_assoc bs, ← h, hd]
  simp [Relay.receive, hr, flatMap_hand, hl]

theorem Conveys.finish (h : r.Conveys ts bs) (hf : r.finish.1.failed = false) :
    (ts ++ r.finish.2.toList).flatMap String.toList = decode bs := by
  have hr := failed_of_finish hf
  have hb := h []
  rw [List.append_nil, List.append_nil] at hb
  rw [← hb]
  simp [Relay.finish, hr, flatMap_hand, hl]

end Present

theorem Conveys.receiveAll (hl : r.listener = .present o) (h : r.Conveys ts bs)
    {pieces : List Bytes} (hf : (r.receiveAll pieces).1.failed = false) :
    (r.receiveAll pieces).1.Conveys (ts ++ (r.receiveAll pieces).2) (bs ++ pieces.flatten) := by
  induction pieces generalizing r ts bs with
  | nil => simpa [Relay.receiveAll] using h
  | cons cs rest ih =>
    have hf' : (r.receive cs).1.failed = false := failed_of_receiveAll hf
    have hnext := ih ((listener_receive r cs).trans hl) (h.receive hl hf') hf
    simpa only [Relay.receiveAll, List.append_assoc, List.flatten_cons] using hnext

/-- A listener that has not failed was told the text of all that arrived. -/
theorem flatMap_texts {pieces : List Bytes} (hl : r.listener = .present o)
    (h : r.Conveys [] []) (hf : (r.receiveAll pieces).1.finish.1.failed = false) :
    (r.texts pieces).flatMap String.toList = decode pieces.flatten := by
  have hall := h.receiveAll hl (failed_of_finish hf)
  have hlast : (r.receiveAll pieces).1.listener = .present o :=
    (listener_receiveAll r pieces).trans hl
  have hend := hall.finish hlast hf
  rwa [List.nil_append, List.nil_append, ← texts_eq_receiveAll] at hend

end Relay

namespace Reading

def piecesOn (c : Channel) (arrivals : List (Channel × Bytes)) : List Bytes :=
  (arrivals.filter (·.1 = c)).map Prod.snd

/-- What arrives on one channel goes to its relay, and all else passes that by. -/
theorem relay_receiveAll (r : Reading) (c : Channel) (arrivals : List (Channel × Bytes)) :
    (r.receiveAll arrivals).relay c = ((r.relay c).receiveAll (piecesOn c arrivals)).1 ∧
      (r.receiveAll arrivals).texts c =
        r.texts c ++ ((r.relay c).receiveAll (piecesOn c arrivals)).2 := by
  induction arrivals generalizing r with
  | nil => exact ⟨rfl, (List.append_nil _).symm⟩
  | cons a rest ih =>
    obtain ⟨d, bs⟩ := a
    obtain ⟨hrelay, htexts⟩ := ih (r.receive d bs)
    have hstep : r.receiveAll ((d, bs) :: rest) = (r.receive d bs).receiveAll rest := rfl
    rw [hstep, hrelay, htexts]
    -- a piece counts on its own channel only
    by_cases hd : d = c
    · subst hd
      have hpieces : piecesOn d ((d, bs) :: rest) = bs :: piecesOn d rest := by simp [piecesOn]
      rw [hpieces, Relay.receiveAll, receive, relay_update_self, texts_update_self]
      exact ⟨rfl, List.append_assoc _ _ _⟩
    · have hpieces : piecesOn c ((d, bs) :: rest) = piecesOn c rest := by simp [piecesOn, hd]
      rw [hpieces, receive, relay_update_of_ne r (Ne.symm hd), texts_update_of_ne r (Ne.symm hd)]
      exact ⟨rfl, rfl⟩

theorem relay_finishBoth (r : Reading) (c : Channel) :
    r.finishBoth.relay c = (r.relay c).finish.1 ∧
      r.finishBoth.texts c = r.texts c ++ (r.relay c).finish.2.toList := by
  have hne : Channel.error ≠ Channel.output := by rintro ⟨⟩
  cases c with
  | output =>
    refine ⟨?_, ?_⟩
    · rw [finishBoth, finish, relay_update_of_ne _ hne.symm, finish, relay_update_self]
    · rw [finishBoth, finish, texts_update_of_ne _ hne.symm, finish, texts_update_self]
  | error =>
    have hrelay : (r.finish .output).relay .error = r.relay .error :=
      relay_update_of_ne r hne _
    have htexts : (r.finish .output).texts .error = r.texts .error :=
      texts_update_of_ne r hne _
    refine ⟨?_, ?_⟩
    · rw [finishBoth, finish, relay_update_self, hrelay]
    · rw [finishBoth, finish, texts_update_self, hrelay, htexts]

/-- What is handed over on a channel is what its own pieces lead to with its own listener. -/
theorem texts_finishBoth_receiveAll (l : Listeners) (arrivals : List (Channel × Bytes))
    (c : Channel) :
    ((ofListeners l).receiveAll arrivals).finishBoth.texts c =
      (Relay.ofListener (l.on c)).texts (piecesOn c arrivals) := by
  have hstart : (ofListeners l).relay c = Relay.ofListener (l.on c) := by cases c <;> rfl
  obtain ⟨hrelay, htexts⟩ := relay_receiveAll (ofListeners l) c arrivals
  rw [(relay_finishBoth _ c).2, hrelay, htexts, hstart, Relay.texts_eq_receiveAll]
  rfl

/-- A channel whose listener has not failed was told the text of all that arrived on it. -/
theorem join_texts_finishBoth_receiveAll {l : Listeners} {arrivals : List (Channel × Bytes)}
    (hf : ((ofListeners l).receiveAll arrivals).finishBoth.failed = false) {c : Channel}
    (hl : l.on c ≠ .absent) :
    String.join (((ofListeners l).receiveAll arrivals).finishBoth.texts c) =
      String.ofList (decode (piecesOn c arrivals).flatten) := by
  have hstart : (ofListeners l).relay c = Relay.ofListener (l.on c) := by cases c <;> rfl
  have hf' : (((ofListeners l).receiveAll arrivals).finishBoth.relay c).failed = false := by
    rw [← Bool.not_eq_true] at hf ⊢
    exact fun h => hf (((heeds_ofListeners l).receiveAll arrivals).finishBoth.failed c h)
  rw [(relay_finishBoth _ c).1, (relay_receiveAll _ c arrivals).1, hstart] at hf'
  obtain ⟨o, hp⟩ : ∃ o, l.on c = .present o := by
    cases h : l.on c with
    | absent => exact absurd h hl
    | present o => exact ⟨o, rfl⟩
  have hlistener : (Relay.ofListener (l.on c)).listener = .present o := hp
  have htext := Relay.flatMap_texts hlistener (Relay.conveys_ofListener _) hf'
  rw [texts_finishBoth_receiveAll, ← htext, ← String.toList_join, String.ofList_toList]

end Reading

def Child.bytesOn (c : Child) (ch : Channel) : Bytes := (Reading.piecesOn ch c.arrivals).flatten

theorem Child.bytesOn_of_pieces {c : Child} {ch : Channel} {size : Nat} {chunks : List Bytes}
    (hs : 0 < size) (h : Reading.piecesOn ch c.arrivals = Relay.pieces size chunks) :
    c.bytesOn ch = chunks.flatten := by
  rw [bytesOn, h, Relay.flatten_pieces hs]

/-- All that is read of a child whose streams have ended. -/
def Child.readOut (c : Child) (l : Listeners) : Reading :=
  ((Reading.ofListeners l).receiveAll c.arrivals).finishBoth

namespace Child
variable {c : Child} {l : Listeners}

theorem heard_of_not_isOpen {t : ProcessTable} (h : c.isOpen t = false) (l : Listeners) :
    c.heard t l = c.readOut l := by
  simp [heard, readOut, h]

theorem not_failed_readOut (c : Child)
    (hl : ∀ ch, l.on ch = .absent ∨ l.on ch = .present none) : (c.readOut l).failed = false := by
  apply ((Reading.heeds_ofListeners l).receiveAll c.arrivals).finishBoth.failed_eq_false
  rintro ch e ⟨-, hfail⟩
  rcases hl ch with ha | hp
  · rw [ha] at hfail
    cases hfail
  · rw [hp] at hfail
    cases hfail

theorem not_failed_readOut_both (c : Child) : (c.readOut .both).failed = false :=
  c.not_failed_readOut fun ch => by cases ch <;> exact .inr rfl

theorem texts_readOut (c : Child) (l : Listeners) (ch : Channel) :
    (c.readOut l).texts ch = (Relay.ofListener (l.on ch)).texts (Reading.piecesOn ch c.arrivals) :=
  Reading.texts_finishBoth_receiveAll l c.arrivals ch

theorem join_texts_readOut (hf : (c.readOut l).failed = false) {ch : Channel}
    (hl : l.on ch ≠ .absent) :
    String.join ((c.readOut l).texts ch) = String.ofList (decode (c.bytesOn ch)) :=
  Reading.join_texts_finishBoth_receiveAll hf hl

end Child

namespace Runner
variable {r : Runner} {c : Child} {t : ProcessTable} {l : Listeners} {i : Option Interruption}
variable {status : Int}

/-- A run gives back the status of its child, and on each channel the text of all that the child wrote
there: to whoever listens, in texts that are not empty, and whatever becomes of the other channel. -/
structure Delivers (l : Listeners) (c : Child) (run : Run) : Prop where
  conclusion_eq : run.conclusion = .exited c.status
  join_texts : ∀ ch, l.on ch ≠ .absent →
    String.join (run.reading.texts ch) = String.ofList (decode (c.bytesOn ch))
  texts_of_absent : ∀ ch, l.on ch = .absent → run.reading.texts ch = []
  empty_notMem : ∀ ch, "" ∉ run.reading.texts ch
  texts_eq : ∀ ch, run.reading.texts ch =
    (Relay.ofListener (l.on ch)).texts (Reading.piecesOn ch c.arrivals)

theorem conclusion_abandon_ne_exited (r : Runner) (c : Child) (t : ProcessTable) (reading : Reading)
    (cause : Raised) (status : Int) : (r.abandon c t reading cause).conclusion ≠ .exited status := by
  simp only [abandon]
  split
  · rintro ⟨⟩
  · split <;> rintro ⟨⟩

theorem settle_of_not_isOpen (h : c.isOpen t = false) (reading : Reading) :
    r.settle c t reading i = r.conclude c t reading := by
  simp [settle, h]

/-- A child whose streams end, and whose listeners do not fail, is read to its end. -/
theorem supervise_of_not_isOpen (h : c.isOpen t = false) (hi : cutAfter? c i = none)
    (hf : (c.readOut l).failed = false) :
    (r.supervise c t l i).conclusion = .exited (c.statusIn t) ∧
      (r.supervise c t l i).reading = c.readOut l := by
  have hr := Reading.raised_eq_none hf
  rw [Child.readOut] at hr ⊢
  simp [supervise, hi, settle_of_not_isOpen h, conclude, hr]

section Ended
variable (hc : c.hangs = false)
include hc

theorem isOpen_of_ended (t : ProcessTable) : c.isOpen t = false := by
  simp [Child.isOpen, hc]

theorem supervise_of_ended (hi : cutAfter? c i = none) (hf : (c.readOut l).failed = false) :
    (r.supervise c t l i).conclusion = .exited c.status ∧
      (r.supervise c t l i).reading = c.readOut l := by
  have hstatus : c.statusIn t = c.status := by simp [Child.statusIn, hc]
  rw [← hstatus]
  exact supervise_of_not_isOpen (isOpen_of_ended hc t) hi hf

/-- Only a run that reads its child to the end, with listeners that do not fail, has a status. -/
theorem cutAfter?_of_exited (h : (r.supervise c t l i).conclusion = .exited status) :
    cutAfter? c i = none ∧ (c.readOut l).failed = false := by
  cases hi : cutAfter? c i with
  | some n =>
    simp only [supervise, hi] at h
    exact absurd h (conclusion_abandon_ne_exited _ _ _ _ _ _)
  | none =>
    refine ⟨rfl, ?_⟩
    simp only [supervise, hi, settle_of_not_isOpen (isOpen_of_ended hc t), conclude] at h
    split at h
    · exact absurd h (conclusion_abandon_ne_exited _ _ _ _ _ _)
    · rename_i hr
      simpa [Child.readOut, Reading.failed] using hr

end Ended

/-- A child that ends by itself is read to its end. Unless something interrupts the run or a listener
fails, it returns; and when it returns, all output was delivered, however it was cut into pieces on its
way and in whatever order the pieces of the two streams arrived. Nor does it matter how many bytes are
read at once. -/
theorem output_complete (r : Runner) (p : Plan) (t : ProcessTable) (l : Listeners)
    (i : Option Interruption) (hc : c.hangs = false) :
    let run := r.run p (.started c) t l i
    (i = none → (∀ ch, l.on ch = .absent ∨ l.on ch = .present none) →
      run.conclusion = .exited c.status) ∧
    (∀ status, run.conclusion = .exited status → Delivers l c run) ∧
    ∀ ch size chunks, 0 < size → Reading.piecesOn ch c.arrivals = Relay.pieces size chunks →
      c.bytesOn ch = chunks.flatten := by
  intro run
  refine ⟨fun hi hl => ?_, fun status h => ?_, fun ch size chunks hs h => ?_⟩
  · exact (supervise_of_ended hc (by rw [hi]; rfl) (c.not_failed_readOut hl)).1
  · obtain ⟨hi, hf⟩ := cutAfter?_of_exited hc h
    obtain ⟨hcon, hread⟩ := supervise_of_ended (r := r) (t := t) hc hi hf
    have hread : run.reading = c.readOut l := hread
    refine ⟨hcon, fun ch hl => ?_, fun ch hl => ?_, fun ch => ?_, fun ch => ?_⟩
    · rw [hread, Child.join_texts_readOut hf hl]
    · rw [hread, Child.texts_readOut, Relay.texts_of_absent hl]
    · rw [hread, Child.texts_readOut]
      exact Relay.empty_notMem_texts _ _
    · rw [hread, Child.texts_readOut]
  · exact Child.bytesOn_of_pieces hs h

/-- A child that writes a character in two pieces, and ends in the middle of another one. -/
def splitter : Child :=
  .ending 7 [(.output, [0xc3]), (.error, [0xff]), (.output, [0xa9, 0xe2, 0x82])] 3

theorem output_complete_splitter :
    splitter.hangs = false ∧
      let run := (Runner.ofEnvironment ⟨[]⟩ (.int 2)).run draft (.started splitter) .empty .both none
      run.conclusion = .exited 3 ∧ String.join (run.reading.texts .output) = "é\ufffd" ∧
        String.join (run.reading.texts .error) = "\ufffd" := by
  have hc : splitter.hangs = false := rfl
  have hrun := output_complete (.ofEnvironment ⟨[]⟩ (.int 2)) draft .empty .both none hc
  have hstatus := hrun.1 rfl fun ch => by cases ch <;> exact .inr rfl
  have hall := hrun.2.1 _ hstatus
  have hchar : front (splitter.bytesOn .output) = .char 'é' [0xe2, 0x82] := by decide
  have hcut : front [0xe2, 0x82] = .cut := by decide
  have hmalformed : front (splitter.bytesOn .error) = .malformed [] := by decide
  refine ⟨hc, hstatus, ?_, ?_⟩
  · rw [hall.join_texts .output (by rintro ⟨⟩), decode_of_char hchar, decode_of_cut hcut]
    rfl
  · rw [hall.join_texts .error (by rintro ⟨⟩), decode_of_malformed hmalformed, decode_nil]
    rfl

end Runner
end Typeset
