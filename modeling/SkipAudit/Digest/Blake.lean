/-
The digest called BLAKE2b, of any number of bytes up to sixty-four.
-/
import SkipAudit.Digest.Blocks

namespace SkipAudit.Digest

/-- In which order the words of a block come in each round. -/
def blakeOrders : Array (Array Nat) :=
  #[#[0, 1, 2, 3, 4, 5, 6, 7, 8, 9, 10, 11, 12, 13, 14, 15],
    #[14, 10, 4, 8, 9, 15, 13, 6, 1, 12, 0, 2, 11, 7, 5, 3],
    #[11, 8, 12, 0, 5, 2, 15, 13, 10, 14, 3, 6, 7, 1, 9, 4],
    #[7, 9, 3, 1, 13, 12, 11, 14, 2, 6, 5, 10, 4, 0, 15, 8],
    #[9, 0, 5, 7, 2, 4, 10, 15, 14, 1, 11, 12, 6, 8, 3, 13],
    #[2, 12, 6, 10, 0, 11, 8, 3, 4, 13, 7, 5, 15, 14, 1, 9],
    #[12, 5, 1, 15, 14, 13, 4, 10, 0, 7, 6, 3, 9, 2, 8, 11],
    #[13, 11, 7, 14, 12, 1, 3, 9, 5, 0, 15, 4, 8, 6, 2, 10],
    #[6, 15, 14, 9, 11, 3, 0, 8, 12, 2, 13, 7, 1, 4, 10, 5],
    #[10, 2, 8, 4, 7, 6, 1, 5, 15, 11, 9, 14, 3, 12, 13, 0]]

/-- Which words of the state are mixed with each other in a round. -/
def blakeMixes : Array (Nat × Nat × Nat × Nat) :=
  #[(0, 4, 8, 12), (1, 5, 9, 13), (2, 6, 10, 14), (3, 7, 11, 15),
    (0, 5, 10, 15), (1, 6, 11, 12), (2, 7, 8, 13), (3, 4, 9, 14)]

/-- Mix four words of the state with two of the block. -/
def blakeMix (v : Array UInt64) (places : Nat × Nat × Nat × Nat) (x y : UInt64) : Array UInt64 :=
  let (i, j, k, l) := places
  let a := v[i]! + v[j]! + x
  let d := turnRight64 (v[l]! ^^^ a) 32
  let c := v[k]! + d
  let b := turnRight64 (v[j]! ^^^ c) 24
  let a := a + b + y
  let d := turnRight64 (d ^^^ a) 16
  let c := c + d
  let b := turnRight64 (b ^^^ c) 63
  (((v.set! i a).set! j b).set! k c).set! l d

/-- One round. -/
def blakeRound (m v : Array UInt64) (i : Nat) : Array UInt64 :=
  let order := blakeOrders[i % 10]!
  Nat.fold 8 (fun j _ v =>
    blakeMix v blakeMixes[j]! m[order[2 * j]!]! m[order[2 * j + 1]!]!) v

/-- The state after a block; `count` are the bytes up to its end. -/
def blakeBlock (m h : Array UInt64) (count : Nat) (isLast : Bool) : Array UInt64 :=
  let v := h ++ squareRoots.extract 0 8
  let v := v.set! 12 (v[12]! ^^^ count.toUInt64)
  let v := if isLast then v.set! 14 (~~~v[14]!) else v
  let v := Nat.fold 12 (fun i _ v => blakeRound m v i) v
  (Array.range 8).map fun i => h[i]! ^^^ v[i]! ^^^ v[i + 8]!

/-- The digest of so many bytes. -/
def blake2b (size : Nat) (t : ByteArray) : List UInt8 :=
  let count := max 1 ((t.size + 127) / 128)
  let filled := (List.replicate (count * 128 - t.size) 0).foldl ByteArray.push t
  let start := (squareRoots.extract 0 8).modify 0 fun x => x ^^^ 0x01010000 ^^^ size.toUInt64
  let h := count.fold (fun i _ h =>
    blakeBlock (words64 .lowestFirst 16 filled (i * 128)) h (min t.size ((i + 1) * 128))
      (i + 1 == count)) start
  (bytes64 .lowestFirst h).take size

end SkipAudit.Digest
