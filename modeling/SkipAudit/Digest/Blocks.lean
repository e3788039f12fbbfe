/-
What digests have in common: a text is filled up to whole blocks, the blocks are words, and each
block changes a state.

Some of them need numbers without any hidden meaning: the digits behind the point of roots of prime
numbers.
-/
import SkipAudit.Number.Natural
import SkipAudit.Text.Octets

namespace SkipAudit.Digest

/-- Bytes as they are digested. -/
def bytesOf (t : Octets) : ByteArray := ⟨(Octets.toBytes t).toArray⟩

/-- In which order the bytes of a number stand. -/
inductive ByteOrder where
  | highestFirst
  | lowestFirst
deriving DecidableEq

/-- The bytes of a number. -/
def ByteOrder.bytes (o : ByteOrder) (size n : Nat) : List UInt8 :=
  let lowestFirst := (List.range size).map fun i => (n >>> (8 * i)).toUInt8
  match o with
  | .highestFirst => lowestFirst.reverse
  | .lowestFirst => lowestFirst

/-- The number whose bytes stand at some place. -/
def ByteOrder.number (o : ByteOrder) (size : Nat) (b : ByteArray) (place : Nat) : Nat :=
  (List.range size).foldl (fun n i =>
    let j := match o with
      | .highestFirst => i
      | .lowestFirst => size - 1 - i
    n * 256 + (b.get! (place + j)).toNat) 0

/-- Bytes filled up to whole blocks: a bit, as many zeros as are needed, and the number of bits
that there were before. -/
def padded (o : ByteOrder) (block lengthSize : Nat) (b : ByteArray) : ByteArray :=
  let zeros := (block - (b.size + 1 + lengthSize) % block) % block
  let tail := 0x80 :: List.replicate zeros 0 ++ o.bytes lengthSize (b.size * 8)
  tail.foldl ByteArray.push b

/-- The words of four bytes in a block. -/
def words32 (o : ByteOrder) (count : Nat) (b : ByteArray) (place : Nat) : Array UInt32 :=
  (Array.range count).map fun i => (o.number 4 b (place + 4 * i)).toUInt32

/-- The words of eight bytes in a block. -/
def words64 (o : ByteOrder) (count : Nat) (b : ByteArray) (place : Nat) : Array UInt64 :=
  (Array.range count).map fun i => (o.number 8 b (place + 8 * i)).toUInt64

/-- A state after all blocks of some bytes. -/
def overBlocks {σ : Type} (block : Nat) (step : σ → Nat → σ) (start : σ) (b : ByteArray) : σ :=
  (b.size / block).fold (fun i _ s => step s (i * block)) start

/-- A word turned to the left. -/
def turnLeft (x : UInt32) (n : UInt32) : UInt32 := (x <<< n) ||| (x >>> (32 - n))

/-- A word turned to the right. -/
def turnRight (x : UInt32) (n : UInt32) : UInt32 := (x >>> n) ||| (x <<< (32 - n))

/-- A long word turned to the right. -/
def turnRight64 (x : UInt64) (n : UInt64) : UInt64 := (x >>> n) ||| (x <<< (64 - n))

/-- The bytes of words. -/
def bytes32 (o : ByteOrder) (ws : Array UInt32) : List UInt8 :=
  ws.toList.flatMap fun w => o.bytes 4 w.toNat

/-- The bytes of long words. -/
def bytes64 (o : ByteOrder) (ws : Array UInt64) : List UInt8 :=
  ws.toList.flatMap fun w => o.bytes 8 w.toNat

/-! ## Roots of prime numbers -/

/-- The greatest number whose power is not above another one; the first number bounds its bits. -/
def rootWithin (power n : Nat) : Nat → Nat → Nat
  | 0, found => found
  | bits + 1, found =>
      let larger := found + Natural.twoTo bits
      rootWithin power n bits (if Nat.pow larger power ≤ n then larger else found)

/-- So many binary digits behind the point of a root. -/
def rootDigits (power digits n : Nat) : Nat :=
  rootWithin power (n <<< (power * digits)) (digits + 8) 0 % Natural.twoTo digits

/-- The first prime numbers. -/
def primes : List Nat :=
  ((List.range 420).drop 2).filter fun n =>
    ((List.range 21).drop 2).all fun d => n ≤ d || n % d ≠ 0

/-- Digits of the square roots of the first primes. -/
def squareRoots : Array UInt64 :=
  ((primes.take 16).map fun p => (rootDigits 2 64 p).toUInt64).toArray

/-- Digits of the cube roots of the first primes. -/
def cubeRoots : Array UInt64 := ((primes.take 80).map fun p => (rootDigits 3 64 p).toUInt64).toArray

/-- The first half of a long word. -/
def upperHalf (x : UInt64) : UInt32 := (x >>> 32).toUInt32

end SkipAudit.Digest
