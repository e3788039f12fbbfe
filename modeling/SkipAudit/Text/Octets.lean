/-
Texts that stand for byte strings: each character is the byte of its number.

What passes between processes is bytes, and a program that takes no notice of the encoding works
on them one by one.  `ofText` and `toText` lead from and to the texts that people read.
-/
import SkipAudit.Text.Utf8

namespace SkipAudit

/-- A byte string, as a text of characters below 256. -/
abbrev Octets := Text

namespace Octets

/-- The character of number zero, which ends texts where they have no other end. -/
def nul : Char := Char.ofNat 0

/-- The octets with these bytes. -/
def ofBytes (bs : List UInt8) : Octets := bs.map fun b => Char.ofNat b.toNat

/-- The bytes of octets. -/
def toBytes (o : Octets) : List UInt8 := o.map fun c => c.toNat.toUInt8

/-- The octets that a text has in UTF-8. -/
def ofText (t : Text) : Octets := ofBytes (Utf8.encode t)

/-- The text that octets stand for in UTF-8. -/
def toText (o : Octets) : Text := Utf8.decodeLossy (toBytes o)

end Octets

end SkipAudit
