import Typeset.Text.Utf8

/-!
Texts of the shell. The shell does not know letters, it works on bytes: in its texts every character stands
for one byte, which is its code point. A usual text is written in UTF-8.
-/

namespace Typeset.Shell.Octets

open Text Utf8

def ofByte (b : UInt8) : Char := Char.ofNat b.toNat

def toByte (c : Char) : UInt8 := UInt8.ofNat c.toNat

def ofBytes (bs : Bytes) : List Char := bs.map ofByte

def toBytes (s : List Char) : Bytes := s.map toByte

def ofScript (bs : Bytes) : List Char := ofBytes (bs.filter (· ≠ 0))

def ofText (s : String) : String := String.ofList (ofBytes (encode s.toList))

def toText (s : String) : String := String.ofList (decode (toBytes s.toList))

theorem toByte_ofByte (b : UInt8) : toByte (ofByte b) = b := by
  have h : b.toNat < 256 := b.toNat_lt
  have hv : Nat.isValidChar b.toNat := .inl (by omega)
  have hc : (Char.ofNat b.toNat).toNat = b.toNat := by
    rw [Char.ofNat, dif_pos hv]
    rfl
  simp [toByte, ofByte, hc]

theorem toBytes_ofBytes (bs : Bytes) : toBytes (ofBytes bs) = bs := by
  simp [toBytes, ofBytes, Function.comp_def, toByte_ofByte]

end Typeset.Shell.Octets
