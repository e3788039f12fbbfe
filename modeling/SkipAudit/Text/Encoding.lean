/-
How bytes are read as characters.

In one encoding each byte is a character by itself; the other is UTF-8, where a byte that
belongs to no character is kept as a character of its own kind, a stray.  `encode` gives the
bytes back from which `decode` has made characters.
-/
import SkipAudit.Text.Octets

namespace SkipAudit

/-- A way to read bytes as characters. -/
inductive Encoding where
  | bytes
  | utf8
deriving DecidableEq, Repr

namespace Encoding

/-! ## Characters -/

/-- The first of the characters that stand for stray bytes. -/
def firstStray : Nat := 0x10FF00

/-- The character that stands for a byte that belongs to no character. -/
def stray (byte : Char) : Char := Char.ofNat (firstStray + byte.toNat)

/-- The byte for which a character stands, if it stands for a stray one. -/
def strayByte? (c : Char) : Option Char :=
  if firstStray ≤ c.toNat ∧ c.toNat < firstStray + 256 then some (Char.ofNat (c.toNat - firstStray))
  else none

/-- A sequence of bytes on its way to a character, with its bytes, the last one first. -/
abbrev Begun := Option (Utf8.Partial × Octets)

/-- The bytes of a sequence that came to nothing. -/
def strays : Begun → Text
  | some (_, seen) => seen.reverse.map stray
  | none => []

/-- The characters of bytes in UTF-8, behind a sequence that has begun. -/
def charactersFrom (begun : Begun) : Octets → Text
  | [] => strays begun
  | c :: cs =>
      let b := c.toNat.toUInt8
      let fresh := fun (_ : Unit) =>
        match Utf8.lead b with
        | .char c => c :: charactersFrom none cs
        | .begins p => charactersFrom (some (p, [c])) cs
        | .invalid => stray c :: charactersFrom none cs
      match begun with
      | none => fresh ()
      | some (p, seen) =>
          if p.accepts b then
            if p.more ≤ 1 then
              let found := Char.ofNat (p.valueWith b)
              if (strayByte? found).isSome then
                strays (some (p, c :: seen)) ++ charactersFrom none cs
              else found :: charactersFrom none cs
            else charactersFrom (some (p.next b, c :: seen)) cs
          else strays begun ++ fresh ()

/-- The characters of bytes. -/
def decode : Encoding → Octets → Text
  | .bytes, t => t
  | .utf8, t => charactersFrom none t

/-- The bytes of a character. -/
def encodeChar : Encoding → Char → Octets
  | .bytes, c => [c]
  | .utf8, c =>
      match strayByte? c with
      | some b => [b]
      | none => if c.toNat < 128 then [c] else Octets.ofText [c]

/-- The bytes of characters. -/
def encode (e : Encoding) (t : Text) : Octets :=
  match e with
  | .bytes => t
  | .utf8 => t.flatMap e.encodeChar

/-- The number of characters. -/
def length (e : Encoding) (t : Octets) : Nat := (e.decode t).length

/-- Whether a character stands for a stray byte. -/
def isStray : Encoding → Char → Bool
  | .bytes, _ => false
  | .utf8, c => (strayByte? c).isSome

/-! ## Kinds of characters -/

/-- The number lies in one of some ranges. -/
def isIn (ranges : List (Nat × Nat)) (n : Nat) : Bool :=
  ranges.any fun (low, high) => low ≤ n && n ≤ high

/-- Where the letters beyond the first 128 characters stand. -/
def letterRanges : List (Nat × Nat) :=
  [(0xAA, 0xAA), (0xB5, 0xB5), (0xBA, 0xBA), (0xC0, 0xD6), (0xD8, 0xF6), (0xF8, 0x2C1),
   (0x370, 0x374), (0x376, 0x37D), (0x37F, 0x37F), (0x386, 0x386), (0x388, 0x3F5),
   (0x3F7, 0x481), (0x48A, 0x556), (0x560, 0x588), (0x5D0, 0x5EA), (0x620, 0x64A),
   (0x660, 0x669), (0x671, 0x6D3), (0x904, 0x939), (0xE01, 0xE30), (0x10A0, 0x10FF),
   (0x1E00, 0x1FBC), (0x2C00, 0x2DFF), (0x3005, 0x3007), (0x3041, 0x3096), (0x30A1, 0x30FA),
   (0x3105, 0x318E), (0x3400, 0x4DBF), (0x4E00, 0x9FFF), (0xA000, 0xA48C), (0xAC00, 0xD7A3),
   (0xF900, 0xFAFF), (0xFF21, 0xFF3A), (0xFF41, 0xFF5A), (0xFF66, 0xFFDC),
   (0x10000, 0x100FA), (0x1D400, 0x1D7FF), (0x20000, 0x2FA1F)]

/-- Where characters stand that take up two columns. -/
def wideRanges : List (Nat × Nat) :=
  [(0x1100, 0x115F), (0x231A, 0x231B), (0x2329, 0x232A), (0x23E9, 0x23EC), (0x23F0, 0x23F0),
   (0x23F3, 0x23F3), (0x25FD, 0x25FE), (0x2614, 0x2615), (0x2648, 0x2653), (0x267F, 0x267F),
   (0x2693, 0x2693), (0x26A1, 0x26A1), (0x26AA, 0x26AB), (0x26BD, 0x26BE), (0x26C4, 0x26C5),
   (0x26CE, 0x26CE), (0x26D4, 0x26D4), (0x26EA, 0x26EA), (0x26F2, 0x26F3), (0x26F5, 0x26F5),
   (0x26FA, 0x26FA), (0x26FD, 0x26FD), (0x2705, 0x2705), (0x270A, 0x270B), (0x2728, 0x2728),
   (0x274C, 0x274C), (0x274E, 0x274E), (0x2753, 0x2755), (0x2757, 0x2757), (0x2795, 0x2797),
   (0x27B0, 0x27B0), (0x27BF, 0x27BF), (0x2B1B, 0x2B1C), (0x2B50, 0x2B50), (0x2B55, 0x2B55),
   (0x2E80, 0x303E), (0x3041, 0x33FF), (0x3400, 0x4DBF), (0x4E00, 0x9FFF), (0xA000, 0xA4C6),
   (0xA960, 0xA97C), (0xAC00, 0xD7A3), (0xF900, 0xFAFF), (0xFE10, 0xFE19), (0xFE30, 0xFE6F),
   (0xFF01, 0xFF60), (0xFFE0, 0xFFE6), (0x16FE0, 0x18AFF), (0x1B000, 0x1B2FF),
   (0x1F004, 0x1F004), (0x1F0CF, 0x1F0CF), (0x1F18E, 0x1F18E), (0x1F191, 0x1F19A),
   (0x1F200, 0x1F320), (0x1F32D, 0x1F335), (0x1F337, 0x1F37C), (0x1F37E, 0x1F393),
   (0x1F3A0, 0x1F3CA), (0x1F3CF, 0x1F3D3), (0x1F3E0, 0x1F3F0), (0x1F3F4, 0x1F3F4),
   (0x1F3F8, 0x1F43E), (0x1F440, 0x1F440), (0x1F442, 0x1F4FC), (0x1F4FF, 0x1F53D),
   (0x1F54B, 0x1F54E), (0x1F550, 0x1F567), (0x1F57A, 0x1F57A), (0x1F595, 0x1F596),
   (0x1F5A4, 0x1F5A4), (0x1F5FB, 0x1F64F), (0x1F680, 0x1F6C5), (0x1F6CC, 0x1F6CC),
   (0x1F6D0, 0x1F6D2), (0x1F6D5, 0x1F6D7), (0x1F6DD, 0x1F6DF), (0x1F6EB, 0x1F6EC),
   (0x1F6F4, 0x1F6FC), (0x1F7E0, 0x1F7EB), (0x1F7F0, 0x1F7F0), (0x1F90C, 0x1F93A),
   (0x1F93C, 0x1F945), (0x1F947, 0x1F9FF), (0x1FA70, 0x1FAF6), (0x20000, 0x3FFFD)]

/-- Where characters stand that take up no column. -/
def flatRanges : List (Nat × Nat) :=
  [(0xAD, 0xAD), (0x300, 0x36F), (0x483, 0x489), (0x591, 0x5BD), (0x610, 0x61A),
   (0x64B, 0x65F), (0x6D6, 0x6DD), (0x900, 0x902), (0x93C, 0x93C), (0x941, 0x948),
   (0xE31, 0xE31), (0xE34, 0xE3A), (0xE47, 0xE4E), (0x1160, 0x11FF), (0x1AB0, 0x1AFF),
   (0x1DC0, 0x1DFF), (0x200B, 0x200F), (0x202A, 0x202E), (0x2060, 0x2064), (0x20D0, 0x20F0),
   (0x302A, 0x302D), (0x3099, 0x309A), (0xFE00, 0xFE0F), (0xFE20, 0xFE2F), (0xFEFF, 0xFEFF),
   (0xE0100, 0xE01EF)]

/-- Where nothing stands that could be printed. -/
def emptyRanges : List (Nat × Nat) :=
  [(0, 0x1F), (0x7F, 0x9F), (0x378, 0x379), (0x2028, 0x2029), (0xD800, 0xDFFF),
   (0xFFFE, 0xFFFF), (0x1FFFE, 0x1FFFF), (0x2FFFE, 0x2FFFF), (0x40000, 0xE0000),
   (0xE01F0, 0xEFFFF)]

/-- The character can be printed. -/
def isPrintable (e : Encoding) (c : Char) : Bool :=
  match e with
  | .bytes => 32 ≤ c.toNat && c.toNat < 127
  | .utf8 => !isIn emptyRanges c.toNat && (strayByte? c).isNone

/-- How many columns a character takes up; none for one that cannot be printed. -/
def width (e : Encoding) (c : Char) : Nat :=
  if e.isPrintable c = false then 0
  else if c.toNat < 0x300 then (if c.toNat = 0xAD then 0 else 1)
  else if isIn flatRanges c.toNat then 0
  else if isIn wideRanges c.toNat then 2 else 1

/-- How many columns bytes take up. -/
def columns (e : Encoding) (t : Octets) : Nat :=
  (e.decode t).foldl (fun n c => n + e.width c) 0

/-! ## Large and small letters -/

/-- Ranges in which large letters stand in front of small ones at some distance. -/
def shiftedRanges : List (Nat × Nat × Nat) :=
  [(0x41, 0x5A, 32), (0xC0, 0xD6, 32), (0xD8, 0xDE, 32), (0x391, 0x3A1, 32), (0x3A3, 0x3AB, 32),
   (0x388, 0x38A, 37), (0x410, 0x42F, 32), (0x400, 0x40F, 80), (0x531, 0x556, 48),
   (0xFF21, 0xFF3A, 32), (0x10400, 0x10427, 40)]

/-- Ranges in which each large letter stands next to its small one; the first is large. -/
def pairedRanges : List (Nat × Nat) :=
  [(0x100, 0x12F), (0x132, 0x137), (0x139, 0x148), (0x14A, 0x177), (0x179, 0x17E),
   (0x1CD, 0x1DC), (0x1DE, 0x1EF), (0x1F8, 0x21F), (0x222, 0x233), (0x370, 0x373),
   (0x3D8, 0x3EF), (0x460, 0x481), (0x48A, 0x4BF), (0x4C1, 0x4CE), (0x4D0, 0x52F),
   (0x1E00, 0x1E95), (0x1EA0, 0x1EFF)]

/-- The small letter for a large one, and the character itself for all others. -/
def lowered (e : Encoding) (c : Char) : Char :=
  let n := c.toNat
  if n < 128 || e = .bytes then c.toLower
  else match shiftedRanges.find? fun (low, high, _) => low ≤ n && n ≤ high with
    | some (_, _, distance) => Char.ofNat (n + distance)
    | none =>
        match pairedRanges.find? fun (low, high) => low ≤ n && n ≤ high with
        | some (low, _) => if (n - low) % 2 = 0 then Char.ofNat (n + 1) else c
        | none => if n = 0x178 then Char.ofNat 0xFF else c

/-- The large letter for a small one, and the character itself for all others. -/
def raised (e : Encoding) (c : Char) : Char :=
  let n := c.toNat
  if n < 128 || e = .bytes then c.toUpper
  else match shiftedRanges.find? fun (low, high, distance) =>
      low + distance ≤ n && n ≤ high + distance with
    | some (_, _, distance) => Char.ofNat (n - distance)
    | none =>
        match pairedRanges.find? fun (low, high) => low ≤ n && n ≤ high with
        | some (low, _) => if (n - low) % 2 = 1 then Char.ofNat (n - 1) else c
        | none => if n = 0xFF then Char.ofNat 0x178 else if n = 0xB5 then Char.ofNat 0x39C else c

/-- The character is a letter. -/
def isLetter (e : Encoding) (c : Char) : Bool :=
  c.isAlpha || (e = .utf8 && 128 ≤ c.toNat && isIn letterRanges c.toNat)

end Encoding

end SkipAudit
