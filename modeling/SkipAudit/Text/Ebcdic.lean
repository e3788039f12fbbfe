/-
An encoding from the times of punched cards, in which letters do not stand in one row.
-/
import SkipAudit.Text.Radix

namespace SkipAudit.Ebcdic

/-- The bytes that stand for those of the usual encoding, in base sixteen. -/
def rows : List String :=
  ["00010203372d2e2f1605250b0c0d0e0f101112133c3d322618193f271c1d1e1f",
   "405a7f7b5b6c507d4d5d5c4e6b604b61f0f1f2f3f4f5f6f7f8f97a5e4c7e6e6f",
   "7cc1c2c3c4c5c6c7c8c9d1d2d3d4d5d6d7d8d9e2e3e4e5e6e7e8e9ade0bd9a6d",
   "79818283848586878889919293949596979899a2a3a4a5a6a7a8a9c04fd05f07",
   "202122232415061728292a2b2c090a1b30311a333435360838393a3b04143ee1",
   "4142434445464748495152535455565758596263646566676869707172737475",
   "767778808a8b8c8d8e8f906a9b9c9d9e9fa0aaabac4aaeafb0b1b2b3b4b5b6b7",
   "b8b9babbbca1bebfcacbcccdcecfdadbdcdddedfeaebecedeeeffafbfcfdfeff"]

/-- The same as bytes. -/
def table : Array Char := (Radix.hexadecimal.decode (rows.flatMap text)).1.toArray

/-- A byte in this encoding. -/
def encode (c : Char) : Char := table[c.toNat]?.getD c

/-- The bytes that some machines encode in another way. -/
def others : List (Nat × Nat) :=
  [(0x5E, 0x5F), (0x7E, 0xA1), (0xCB, 0x9A), (0xD5, 0xAD), (0xE5, 0xBD)]

/-- A byte in the encoding of those machines. -/
def encodeThere (c : Char) : Char :=
  match others.lookup c.toNat with
  | some n => Char.ofNat n
  | none => encode c

/-- The byte that stands in the table for a byte. -/
def decode (c : Char) : Char := Char.ofNat ((table.toList.idxOf? c).getD c.toNat)

end SkipAudit.Ebcdic
