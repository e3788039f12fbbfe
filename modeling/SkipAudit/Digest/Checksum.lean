/-
Sums of bytes that tell whether a text was changed by accident.
-/
import SkipAudit.Number.Natural
import SkipAudit.Text.Octets

namespace SkipAudit.Digest

/-! ## Remainders -/

/-- The polynomial of the remainders. -/
def polynomial : UInt32 := 0x04c11db7

/-- The remainder of a byte. -/
def remainderOf (n : Nat) : UInt32 :=
  Nat.fold 8 (fun _ _ (r : UInt32) =>
    if r &&& 0x80000000 = 0 then r <<< 1 else (r <<< 1) ^^^ polynomial) (n.toUInt32 <<< 24)

/-- The remainders of all bytes. -/
def remainders : Array UInt32 := (Array.range 256).map remainderOf

/-- The remainder after one more byte. -/
def afterByte (r : UInt32) (b : UInt8) : UInt32 :=
  (r <<< 8) ^^^ remainders[((r >>> 24) ^^^ b.toUInt32).toNat]!

/-- The bytes of a length, the lowest first, without zeros at the end; the number bounds how
many. -/
def lengthBytes : Nat → Nat → List UInt8
  | 0, _ => []
  | fuel + 1, n => if n = 0 then [] else n.toUInt8 :: lengthBytes fuel (n / 256)

/-- The remainder of a text and its length. -/
def crc (t : Octets) : Nat :=
  let r := t.foldl (fun r c => afterByte r c.toNat.toUInt8) 0
  (~~~((lengthBytes 16 t.length).foldl afterByte r)).toNat

/-! ## Sums -/

/-- The sum of the bytes, turned by one bit before each. -/
def turningSum (t : Octets) : Nat :=
  t.foldl (fun s c => (s / 2 + s % 2 * 32768 + c.toNat) % 65536) 0

/-- The sum of the bytes, folded into two bytes. -/
def plainSum (t : Octets) : Nat :=
  let s := t.foldl (fun s c => s + c.toNat) 0 % Natural.twoTo 32
  let r := s % 65536 + s / 65536
  r % 65536 + r / 65536

end SkipAudit.Digest
