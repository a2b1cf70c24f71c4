/-!
UTF-8 with replacement. The front of a byte sequence is a character, a part that starts no
character, or the proper beginning of a character cut off by the end. `decode` reads a whole
sequence and writes one replacement character for each part that is no character; `feed` reads
what has arrived so far and withholds a beginning that later bytes may complete.
-/

namespace Typeset.Text.Utf8

abbrev Bytes := List UInt8

/-- Stands for each part of the input that is no character. -/
def replacement : Char := '\ufffd'

/-- What stands at the front of a byte sequence. -/
inductive Front
  | finished
  | char (c : Char) (rest : Bytes)
  | malformed (rest : Bytes)
  | cut
  deriving DecidableEq

/-- For a lead byte: how many bytes follow it, the range of the first of them, and its own bits. -/
def lead? (b : UInt8) : Option (Nat × UInt8 × UInt8 × Nat) :=
  if b < 0xc2 then none
  else if b < 0xe0 then some (1, 0x80, 0xbf, b.toNat - 0xc0)
  else if b < 0xf0 then
    some (2, if b = 0xe0 then 0xa0 else 0x80, if b = 0xed then 0x9f else 0xbf, b.toNat - 0xe0)
  else if b < 0xf5 then
    some (3, if b = 0xf0 then 0x90 else 0x80, if b = 0xf4 then 0x8f else 0xbf, b.toNat - 0xf0)
  else none

/-- Reads the bytes after a lead byte, the first of them within `lo` to `hi`. -/
def continued : Nat → UInt8 → UInt8 → Nat → Bytes → Front
  | 0, _, _, n, rest => .char (Char.ofNat n) rest
  | _ + 1, _, _, _, [] => .cut
  | k + 1, lo, hi, n, b :: rest =>
    if lo ≤ b ∧ b ≤ hi then continued k 0x80 0xbf (n * 64 + (b.toNat - 0x80)) rest
    else .malformed (b :: rest)

def front : Bytes → Front
  | [] => .finished
  | b :: rest =>
    if b < 0x80 then .char (Char.ofNat b.toNat) rest
    else match lead? b with
      | none => .malformed rest
      | some (k, lo, hi, n) => continued k lo hi n rest

theorem continued_char_length {k lo hi n bs c rest}
    (h : continued k lo hi n bs = .char c rest) : rest.length ≤ bs.length := by
  induction k generalizing lo hi n bs with
  | zero => simp only [continued, Front.char.injEq] at h; simp [h.2]
  | succ k ih =>
    cases bs with
    | nil => simp [continued] at h
    | cons b bs =>
      simp only [continued] at h
      split at h
      · exact Nat.le_succ_of_le (ih h)
      · simp at h

theorem continued_malformed_length {k lo hi n bs rest}
    (h : continued k lo hi n bs = .malformed rest) : rest.length ≤ bs.length := by
  induction k generalizing lo hi n bs with
  | zero => simp [continued] at h
  | succ k ih =>
    cases bs with
    | nil => simp [continued] at h
    | cons b bs =>
      simp only [continued] at h
      split at h
      · exact Nat.le_succ_of_le (ih h)
      · simp only [Front.malformed.injEq] at h; simp [← h]

theorem front_char_length {bs c rest} (h : front bs = .char c rest) :
    rest.length < bs.length := by
  cases bs with
  | nil => simp [front] at h
  | cons b bs =>
    simp only [front] at h
    split at h
    · simp only [Front.char.injEq] at h; simp [h.2]
    · split at h
      · simp at h
      · exact Nat.lt_succ_of_le (continued_char_length h)

theorem front_malformed_length {bs rest} (h : front bs = .malformed rest) :
    rest.length < bs.length := by
  cases bs with
  | nil => simp [front] at h
  | cons b bs =>
    simp only [front] at h
    split at h
    · simp at h
    · split at h
      · simp only [Front.malformed.injEq] at h; simp [h]
      · exact Nat.lt_succ_of_le (continued_malformed_length h)

def decode (bs : Bytes) : List Char :=
  match _h : front bs with
  | .finished => []
  | .char c rest => c :: decode rest
  | .malformed rest => replacement :: decode rest
  | .cut => [replacement]
termination_by bs.length
decreasing_by
  · exact front_char_length _h
  · exact front_malformed_length _h

/-- Whether these are the first two of three bytes that would encode a surrogate. -/
def beginsSurrogate : Bytes → Bool
  | [a, b] => a = 0xed && 0xa0 ≤ b && b ≤ 0xbf
  | _ => false

/-- The text of the bytes that have arrived, and the bytes that wait for the rest of a character. The
beginning of a surrogate waits too, though it is malformed whatever follows. -/
def feed (bs : Bytes) : List Char × Bytes :=
  match _h : front bs with
  | .finished => ([], [])
  | .char c rest => (c :: (feed rest).1, (feed rest).2)
  | .malformed rest =>
    if beginsSurrogate bs then ([], bs) else (replacement :: (feed rest).1, (feed rest).2)
  | .cut => ([], bs)
termination_by bs.length
decreasing_by
  all_goals first
    | exact front_char_length _h
    | exact front_malformed_length _h

/-- The text of a byte sequence that is well formed throughout. -/
def decodeStrict? (bs : Bytes) : Option (List Char) :=
  match _h : front bs with
  | .finished => some []
  | .char c rest => (decodeStrict? rest).map (c :: ·)
  | .malformed _ => none
  | .cut => none
termination_by bs.length
decreasing_by exact front_char_length _h

def encode (s : List Char) : Bytes := s.flatMap String.utf8EncodeChar

@[simp] theorem decode_nil : decode [] = [] := by
  rw [decode]; rfl

@[simp] theorem feed_nil : feed [] = ([], []) := by
  rw [feed]; rfl

@[simp] theorem encode_nil : encode [] = [] := rfl

@[simp] theorem encode_append (s t : List Char) : encode (s ++ t) = encode s ++ encode t := by
  simp [encode]

end Typeset.Text.Utf8
