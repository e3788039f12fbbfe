/-
UTF-8, read and written.

`pieces` reads bytes as a sequence of characters and of ill-formed pieces.  An ill-formed
piece is as long as possible: the longest start of a well-formed sequence, or one byte
that starts none.  `decode?` refuses ill-formed pieces, `decodeLossy` puts U+FFFD for each.
-/
import SkipAudit.Text.Basic

namespace SkipAudit.Utf8

/-- A sequence that has begun: the number of bytes to come, the bounds of the next one,
and the value of the bits read. -/
structure Partial where
  more : Nat
  low : Nat
  high : Nat
  value : Nat
deriving DecidableEq, Repr

/-- What a byte at the start of a sequence means. -/
inductive Lead where
  | char (c : Char)
  | begins (p : Partial)
  | invalid
deriving Repr

/-- The meaning of a first byte.  The bounds of the second one exclude overlong forms
(after E0 and F0), surrogates (after ED) and values above U+10FFFF (after F4). -/
def lead (b : UInt8) : Lead :=
  let n := b.toNat
  if n < 0x80 then .char (Char.ofNat n)
  else if n < 0xC2 then .invalid
  else if n < 0xE0 then .begins ⟨1, 0x80, 0xBF, n - 0xC0⟩
  else if n = 0xE0 then .begins ⟨2, 0xA0, 0xBF, 0⟩
  else if n = 0xED then .begins ⟨2, 0x80, 0x9F, 0xD⟩
  else if n < 0xF0 then .begins ⟨2, 0x80, 0xBF, n - 0xE0⟩
  else if n = 0xF0 then .begins ⟨3, 0x90, 0xBF, 0⟩
  else if n < 0xF4 then .begins ⟨3, 0x80, 0xBF, n - 0xF0⟩
  else if n = 0xF4 then .begins ⟨3, 0x80, 0x8F, 4⟩
  else .invalid

/-- The byte may come next. -/
def Partial.accepts (p : Partial) (b : UInt8) : Bool :=
  p.low ≤ b.toNat && b.toNat ≤ p.high

/-- The value with the six bits of the next byte added. -/
def Partial.valueWith (p : Partial) (b : UInt8) : Nat := p.value * 0x40 + (b.toNat - 0x80)

/-- The sequence after a byte that is not its last. -/
def Partial.next (p : Partial) (b : UInt8) : Partial := ⟨p.more - 1, 0x80, 0xBF, p.valueWith b⟩

/-- A part of a byte string: a character, or a piece that is none. -/
inductive Piece where
  | char (c : Char)
  | illFormed
deriving DecidableEq, Repr

/-- The pieces of a byte string, `open?` being the sequence that has begun. -/
def piecesFrom (open? : Option Partial) : List UInt8 → List Piece
  | [] => if open?.isSome then [.illFormed] else []
  | b :: bs =>
      let fresh := fun (_ : Unit) =>
        match lead b with
        | .char c => .char c :: piecesFrom none bs
        | .begins p => piecesFrom (some p) bs
        | .invalid => .illFormed :: piecesFrom none bs
      match open? with
      | none => fresh ()
      | some p =>
          if p.accepts b then
            if p.more ≤ 1 then .char (Char.ofNat (p.valueWith b)) :: piecesFrom none bs
            else piecesFrom (some (p.next b)) bs
          else .illFormed :: fresh ()

/-- The pieces of a byte string. -/
def pieces (bs : List UInt8) : List Piece := piecesFrom none bs

/-- The character put for an ill-formed piece. -/
def replacement : Char := Char.ofNat 0xFFFD

/-- The character that stands for a piece. -/
def Piece.shown : Piece → Char
  | .char c => c
  | .illFormed => replacement

/-- The character of a piece, if it is one. -/
def Piece.char? : Piece → Option Char
  | .char c => some c
  | .illFormed => none

/-- Decode, with the replacement character for each ill-formed piece. -/
def decodeLossy (bs : List UInt8) : Text := (pieces bs).map Piece.shown

/-- Decode well-formed UTF-8 only. -/
def decode? (bs : List UInt8) : Option Text := (pieces bs).mapM Piece.char?

/-- The bytes of a text. -/
def encode (t : Text) : List UInt8 := t.flatMap String.utf8EncodeChar

/-- The number of bytes of a text. -/
def size (t : Text) : Nat := (encode t).length

end SkipAudit.Utf8
