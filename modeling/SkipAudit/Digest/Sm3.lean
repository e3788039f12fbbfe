/-
The digest of thirty-two bytes called SM3.
-/
import SkipAudit.Digest.Blocks

namespace SkipAudit.Digest

/-- A word spread over its neighbours, as the words of later rounds are made. -/
def sm3Spread (x : UInt32) : UInt32 := x ^^^ turnLeft x 15 ^^^ turnLeft x 23

/-- The words of all rounds for those of a block. -/
def sm3Schedule (m : Array UInt32) : Array UInt32 :=
  Nat.fold 52 (fun i _ w =>
    let j := i + 16
    w.push (sm3Spread (w[j - 16]! ^^^ w[j - 9]! ^^^ turnLeft w[j - 3]! 15) ^^^
      turnLeft w[j - 13]! 7 ^^^ w[j - 6]!)) m

/-- A word turned by any number of bits. -/
def turnLeftBy (x : UInt32) (n : Nat) : UInt32 :=
  if n % 32 = 0 then x else turnLeft x (n % 32).toUInt32

/-- One round. -/
def sm3Round (w s : Array UInt32) (i : Nat) : Array UInt32 :=
  let a := s[0]!
  let b := s[1]!
  let c := s[2]!
  let e := s[4]!
  let f := s[5]!
  let g := s[6]!
  let k : UInt32 := if i < 16 then 0x79cc4519 else 0x7a879d8a
  let x := turnLeft (turnLeft a 12 + e + turnLeftBy k i) 7
  let y := x ^^^ turnLeft a 12
  let first := if i < 16 then a ^^^ b ^^^ c else (a &&& b) ||| (a &&& c) ||| (b &&& c)
  let second := if i < 16 then e ^^^ f ^^^ g else (e &&& f) ||| ((~~~e) &&& g)
  let t := first + s[3]! + y + (w[i]! ^^^ w[i + 4]!)
  let u := second + s[7]! + x + w[i]!
  #[t, a, turnLeft b 9, c, u ^^^ turnLeft u 9 ^^^ turnLeft u 17, e, turnLeft f 19, g]

/-- The digest of some bytes. -/
def sm3 (t : ByteArray) : List UInt8 :=
  let b := padded .highestFirst 64 8 t
  let start : Array UInt32 :=
    #[0x7380166f, 0x4914b2b9, 0x172442d7, 0xda8a0600,
      0xa96f30bc, 0x163138aa, 0xe38dee4d, 0xb0fb0e4e]
  bytes32 .highestFirst (overBlocks 64 (fun s place =>
    let w := sm3Schedule (words32 .highestFirst 16 b place)
    let r := Nat.fold 64 (fun i _ s => sm3Round w s i) s
    (Array.range 8).map fun i => s[i]! ^^^ r[i]!) start b)

end SkipAudit.Digest
