/-
The digest of sixteen bytes called MD5.
-/
import SkipAudit.Digest.Blocks

namespace SkipAudit.Digest

/-- The digits of the sines of the first numbers. -/
def sines : Array UInt32 :=
  #[0xd76aa478, 0xe8c7b756, 0x242070db, 0xc1bdceee, 0xf57c0faf, 0x4787c62a, 0xa8304613,
    0xfd469501, 0x698098d8, 0x8b44f7af, 0xffff5bb1, 0x895cd7be, 0x6b901122, 0xfd987193,
    0xa679438e, 0x49b40821, 0xf61e2562, 0xc040b340, 0x265e5a51, 0xe9b6c7aa, 0xd62f105d,
    0x02441453, 0xd8a1e681, 0xe7d3fbc8, 0x21e1cde6, 0xc33707d6, 0xf4d50d87, 0x455a14ed,
    0xa9e3e905, 0xfcefa3f8, 0x676f02d9, 0x8d2a4c8a, 0xfffa3942, 0x8771f681, 0x6d9d6122,
    0xfde5380c, 0xa4beea44, 0x4bdecfa9, 0xf6bb4b60, 0xbebfbc70, 0x289b7ec6, 0xeaa127fa,
    0xd4ef3085, 0x04881d05, 0xd9d4d039, 0xe6db99e5, 0x1fa27cf8, 0xc4ac5665, 0xf4292244,
    0x432aff97, 0xab9423a7, 0xfc93a039, 0x655b59c3, 0x8f0ccc92, 0xffeff47d, 0x85845dd1,
    0x6fa87e4f, 0xfe2ce6e0, 0xa3014314, 0x4e0811a1, 0xf7537e82, 0xbd3af235, 0x2ad7d2bb,
    0xeb86d391]

/-- By how much each round turns. -/
def md5Turns : Array UInt32 := #[7, 12, 17, 22, 5, 9, 14, 20, 4, 11, 16, 23, 6, 10, 15, 21]

/-- One round. -/
def md5Round (m : Array UInt32) (s : UInt32 × UInt32 × UInt32 × UInt32) (i : Nat) :
    UInt32 × UInt32 × UInt32 × UInt32 :=
  let (a, b, c, d) := s
  let (f, g) :=
    if i < 16 then ((b &&& c) ||| ((~~~b) &&& d), i)
    else if i < 32 then ((d &&& b) ||| ((~~~d) &&& c), (5 * i + 1) % 16)
    else if i < 48 then (b ^^^ c ^^^ d, (3 * i + 5) % 16)
    else (c ^^^ (b ||| (~~~d)), 7 * i % 16)
  let x := a + f + sines[i]! + m[g]!
  (d, b + turnLeft x md5Turns[i / 16 * 4 + i % 4]!, b, c)

/-- The digest of some bytes. -/
def md5 (t : ByteArray) : List UInt8 :=
  let b := padded .lowestFirst 64 8 t
  let (a, x, y, z) := overBlocks 64 (fun (a, x, y, z) place =>
    let m := words32 .lowestFirst 16 b place
    let (a', x', y', z') := Nat.fold 64 (fun i _ s => md5Round m s i) (a, x, y, z)
    (a + a', x + x', y + y', z + z')) (0x67452301, 0xefcdab89, 0x98badcfe, 0x10325476) b
  bytes32 .lowestFirst #[a, x, y, z]

end SkipAudit.Digest
