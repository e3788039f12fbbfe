/-
The digests called SHA: the first one of twenty bytes, and the later ones in two sizes of words.
-/
import SkipAudit.Digest.Blocks

namespace SkipAudit.Digest

/-! ## Twenty bytes -/

/-- The words of all rounds for those of a block. -/
def sha1Schedule (m : Array UInt32) : Array UInt32 :=
  Nat.fold 64 (fun i _ w =>
    let j := i + 16
    w.push (turnLeft (w[j - 3]! ^^^ w[j - 8]! ^^^ w[j - 14]! ^^^ w[j - 16]!) 1)) m

/-- The state between rounds. -/
structure Sha1State where
  a : UInt32
  b : UInt32
  c : UInt32
  d : UInt32
  e : UInt32

/-- One round. -/
def sha1Round (w : Array UInt32) (s : Sha1State) (i : Nat) : Sha1State :=
  let (f, k) : UInt32 × UInt32 :=
    if i < 20 then ((s.b &&& s.c) ||| ((~~~s.b) &&& s.d), 0x5a827999)
    else if i < 40 then (s.b ^^^ s.c ^^^ s.d, 0x6ed9eba1)
    else if i < 60 then ((s.b &&& s.c) ||| (s.b &&& s.d) ||| (s.c &&& s.d), 0x8f1bbcdc)
    else (s.b ^^^ s.c ^^^ s.d, 0xca62c1d6)
  ⟨turnLeft s.a 5 + f + s.e + k + w[i]!, s.a, turnLeft s.b 30, s.c, s.d⟩

/-- The digest of twenty bytes. -/
def sha1 (t : ByteArray) : List UInt8 :=
  let b := padded .highestFirst 64 8 t
  let s := overBlocks 64 (fun (s : Sha1State) place =>
    let w := sha1Schedule (words32 .highestFirst 16 b place)
    let r := Nat.fold 80 (fun i _ s => sha1Round w s i) s
    ⟨s.a + r.a, s.b + r.b, s.c + r.c, s.d + r.d, s.e + r.e⟩)
      ⟨0x67452301, 0xefcdab89, 0x98badcfe, 0x10325476, 0xc3d2e1f0⟩ b
  bytes32 .highestFirst #[s.a, s.b, s.c, s.d, s.e]

/-! ## Words of four bytes -/

/-- The words of all rounds for those of a block. -/
def sha256Schedule (m : Array UInt32) : Array UInt32 :=
  Nat.fold 48 (fun i _ w =>
    let j := i + 16
    let x := w[j - 15]!
    let y := w[j - 2]!
    w.push (w[j - 16]! + (turnRight x 7 ^^^ turnRight x 18 ^^^ (x >>> 3)) + w[j - 7]! +
      (turnRight y 17 ^^^ turnRight y 19 ^^^ (y >>> 10)))) m

/-- The state between rounds, in words of some size. -/
structure Sha2State (ω : Type) where
  a : ω
  b : ω
  c : ω
  d : ω
  e : ω
  f : ω
  g : ω
  h : ω

/-- The state with these words. -/
def Sha2State.ofArray {ω : Type} [Inhabited ω] (w : Array ω) : Sha2State ω :=
  ⟨w[0]!, w[1]!, w[2]!, w[3]!, w[4]!, w[5]!, w[6]!, w[7]!⟩

/-- The words of a state. -/
def Sha2State.toArray {ω : Type} (s : Sha2State ω) : Array ω :=
  #[s.a, s.b, s.c, s.d, s.e, s.f, s.g, s.h]

/-- The words of two states added up. -/
def Sha2State.plus {ω : Type} [Add ω] (s r : Sha2State ω) : Sha2State ω :=
  ⟨s.a + r.a, s.b + r.b, s.c + r.c, s.d + r.d, s.e + r.e, s.f + r.f, s.g + r.g, s.h + r.h⟩

/-- One round. -/
def sha256Round (w : Array UInt32) (s : Sha2State UInt32) (i : Nat) : Sha2State UInt32 :=
  let mixed := turnRight s.e 6 ^^^ turnRight s.e 11 ^^^ turnRight s.e 25
  let choice := (s.e &&& s.f) ^^^ ((~~~s.e) &&& s.g)
  let x := s.h + mixed + choice + upperHalf cubeRoots[i]! + w[i]!
  let mixed := turnRight s.a 2 ^^^ turnRight s.a 13 ^^^ turnRight s.a 22
  let majority := (s.a &&& s.b) ^^^ (s.a &&& s.c) ^^^ (s.b &&& s.c)
  ⟨x + mixed + majority, s.a, s.b, s.c, s.d + x, s.e, s.f, s.g⟩

/-- The words of the state in the end. -/
def sha256Words (start : Array UInt32) (t : ByteArray) : Array UInt32 :=
  let b := padded .highestFirst 64 8 t
  (overBlocks 64 (fun (s : Sha2State UInt32) place =>
    let w := sha256Schedule (words32 .highestFirst 16 b place)
    s.plus (Nat.fold 64 (fun i _ s => sha256Round w s i) s)) (.ofArray start) b).toArray

/-- The digest of thirty-two bytes. -/
def sha256 (t : ByteArray) : List UInt8 :=
  bytes32 .highestFirst (sha256Words ((squareRoots.extract 0 8).map upperHalf) t)

/-- The digest of twenty-eight bytes. -/
def sha224 (t : ByteArray) : List UInt8 :=
  (bytes32 .highestFirst (sha256Words ((squareRoots.extract 8 16).map UInt64.toUInt32) t)).take 28

/-! ## Words of eight bytes -/

/-- The words of all rounds for those of a block. -/
def sha512Schedule (m : Array UInt64) : Array UInt64 :=
  Nat.fold 64 (fun i _ w =>
    let j := i + 16
    let x := w[j - 15]!
    let y := w[j - 2]!
    w.push (w[j - 16]! + (turnRight64 x 1 ^^^ turnRight64 x 8 ^^^ (x >>> 7)) + w[j - 7]! +
      (turnRight64 y 19 ^^^ turnRight64 y 61 ^^^ (y >>> 6)))) m

/-- One round. -/
def sha512Round (w : Array UInt64) (s : Sha2State UInt64) (i : Nat) : Sha2State UInt64 :=
  let mixed := turnRight64 s.e 14 ^^^ turnRight64 s.e 18 ^^^ turnRight64 s.e 41
  let choice := (s.e &&& s.f) ^^^ ((~~~s.e) &&& s.g)
  let x := s.h + mixed + choice + cubeRoots[i]! + w[i]!
  let mixed := turnRight64 s.a 28 ^^^ turnRight64 s.a 34 ^^^ turnRight64 s.a 39
  let majority := (s.a &&& s.b) ^^^ (s.a &&& s.c) ^^^ (s.b &&& s.c)
  ⟨x + mixed + majority, s.a, s.b, s.c, s.d + x, s.e, s.f, s.g⟩

/-- The bytes of the state in the end. -/
def sha512Bytes (start : Array UInt64) (t : ByteArray) : List UInt8 :=
  let b := padded .highestFirst 128 16 t
  bytes64 .highestFirst (overBlocks 128 (fun (s : Sha2State UInt64) place =>
    let w := sha512Schedule (words64 .highestFirst 16 b place)
    s.plus (Nat.fold 80 (fun i _ s => sha512Round w s i) s)) (.ofArray start) b).toArray

/-- The digest of sixty-four bytes. -/
def sha512 (t : ByteArray) : List UInt8 := sha512Bytes (squareRoots.extract 0 8) t

/-- The digest of forty-eight bytes. -/
def sha384 (t : ByteArray) : List UInt8 := (sha512Bytes (squareRoots.extract 8 16) t).take 48

end SkipAudit.Digest
