/-
Bytes written in digits that are common characters.

Each digit stands for some bits.  Digits come in groups that stand for whole bytes, and a last
group that is not whole is filled up with equal signs, where that is the custom.
-/
import SkipAudit.Number.Natural
import SkipAudit.Text.Octets

namespace SkipAudit

/-- A way to write bytes in digits. -/
structure Radix where
  digits : List Char
  /-- How many bits a digit stands for. -/
  bits : Nat
  /-- How many digits a group has. -/
  group : Nat
  /-- A last group may be filled up. -/
  fills : Bool
  /-- The lowest bit of a byte comes first. -/
  lowestFirst : Bool
  /-- Nothing is taken from a group that is not whole. -/
  wholeGroups : Bool

namespace Radix

/-- The large letters, the small ones, and the ten digits. -/
def largeLetters : List Char := "ABCDEFGHIJKLMNOPQRSTUVWXYZ".toList
def smallLetters : List Char := "abcdefghijklmnopqrstuvwxyz".toList
def tenDigits : List Char := "0123456789".toList

/-- The base of sixty-four digits. -/
def base64 : Radix :=
  ⟨largeLetters ++ smallLetters ++ tenDigits ++ ['+', '/'], 6, 4, true, false, false⟩

/-- The same for names of files. -/
def base64url : Radix := { base64 with
  digits := largeLetters ++ smallLetters ++ tenDigits ++ ['-', '_'] }

/-- The base of thirty-two digits. -/
def base32 : Radix := ⟨largeLetters ++ "234567".toList, 5, 8, true, false, true⟩

/-- The same with digits in their order. -/
def base32hex : Radix := { base32 with digits := tenDigits ++ largeLetters.take 22 }

/-- The base of sixteen digits. -/
def base16 : Radix := ⟨tenDigits ++ largeLetters.take 6, 4, 2, false, false, true⟩

/-- The same with small letters. -/
def hexadecimal : Radix := { base16 with digits := tenDigits ++ smallLetters.take 6 }

/-- The base of two digits. -/
def base2 : Radix := ⟨['0', '1'], 1, 8, false, false, true⟩

/-- The same from the lowest bit to the highest. -/
def base2lsbf : Radix := { base2 with lowestFirst := true }

/-! ## Writing -/

/-- A byte with its bits in the order in which they are written. -/
def oriented (r : Radix) (n : Nat) : Nat :=
  if r.lowestFirst then (List.range 8).foldl (fun m i => m * 2 + n / Natural.twoTo i % 2) 0 else n

/-- The bytes of a group. -/
def groupBytes (r : Radix) : Nat := r.group * r.bits / 8

/-- The digits of some bytes of one group. -/
def encodeGroup (r : Radix) (t : Octets) : Octets :=
  let count := (t.length * 8 + r.bits - 1) / r.bits
  let value := t.foldl (fun n c => n * 256 + r.oriented c.toNat) 0
  let shifted := value * Natural.twoTo (count * r.bits - t.length * 8)
  let base := Natural.twoTo r.bits
  let ds := (List.range count).map fun i =>
    (r.digits[shifted / Nat.pow base (count - 1 - i) % base]?).getD '='
  ds ++ List.replicate (r.group - count) '='

/-- The digits of bytes; the number bounds how many groups there are. -/
def encodeWithin (r : Radix) : Nat → Octets → Octets
  | 0, _ | _, [] => []
  | n + 1, t => r.encodeGroup (t.take r.groupBytes) ++ encodeWithin r n (t.drop r.groupBytes)

/-- The digits of bytes. -/
def encode (r : Radix) (t : Octets) : Octets := r.encodeWithin t.length t

/-! ## Reading -/

/-- The bytes of the digits of a group from some digit on, and whether all is well: `pending` are
bits that do not make a byte yet, of which there are `count`. -/
def decodeGroup (r : Radix) (left pending count : Nat) : Octets → Octets × Bool
  | [] => ([], left == 0)
  | c :: t =>
      if c = '=' && r.fills && count < r.bits && left < r.group then
        ([], (c :: t).all (· == '=') && (c :: t).length == left)
      else match r.digits.idxOf? c with
        | none => ([], false)
        | some d =>
            let n := pending * Natural.twoTo r.bits + d
            let count := count + r.bits
            if 8 ≤ count then
              let rest := count - 8
              let (more, isRight) :=
                decodeGroup r (left - 1) (n % Natural.twoTo rest) rest t
              (Char.ofNat (r.oriented (n / Natural.twoTo rest % 256)) :: more, isRight)
            else decodeGroup r (left - 1) n count t

/-- The bytes of digits up to the first that is wrong, and whether all of them are right; the
number bounds how many groups there are. -/
def decodeWithin (r : Radix) : Nat → Octets → Octets × Bool
  | 0, _ | _, [] => ([], true)
  | n + 1, t =>
      let group := t.take r.group
      if r.wholeGroups && group.length < r.group then ([], false)
      else
        let (bytes, isRight) := r.decodeGroup r.group 0 0 group
        if isRight then
          let (more, isRight) := decodeWithin r n (t.drop r.group)
          (bytes ++ more, isRight)
        else (bytes, false)

/-- The bytes of digits up to the first that is wrong, and whether all of them are right. -/
def decode (r : Radix) (t : Octets) : Octets × Bool := r.decodeWithin t.length t

end Radix

end SkipAudit
