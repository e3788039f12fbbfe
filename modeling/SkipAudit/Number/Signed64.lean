/-
Integers of 64 bits, and how they are read from text.

Results that do not fit are taken modulo the range; numbers that are read and do not fit become
the nearest that does.
-/
import SkipAudit.Number.Natural
import SkipAudit.Text.Octets

namespace SkipAudit.Signed64

/-- The number of bits. -/
def width : Nat := 64

/-- The integer that the lowest bits of a number stand for. -/
def wrap (n : Int) : Int := Int.bmod n (Natural.twoTo width)

/-- The greatest integer. -/
def greatest : Int := Natural.twoTo (width - 1) - 1

/-- The least integer. -/
def least : Int := -(Natural.twoTo (width - 1) : Int)

/-- The bits of an integer. -/
def bits (n : Int) : Nat := (n % (Natural.twoTo width : Int)).toNat

/-- The integer as near as there is one. -/
def saturate (n : Int) : Int := max least (min greatest n)

/-- The value of a digit in a base. -/
def digitIn? (base : Nat) (c : Char) : Option Nat :=
  let d? :=
    if c.isDigit then some (c.toNat - '0'.toNat)
    else if 'a' ≤ c ∧ c ≤ 'z' then some (c.toNat - 'a'.toNat + 10)
    else if 'A' ≤ c ∧ c ≤ 'Z' then some (c.toNat - 'A'.toNat + 10)
    else none
  d?.filter (· < base)

/-- The value of the digits at the beginning of a text, how many they are, and the rest. -/
def digits (base : Nat) : Nat → Octets → Nat × Nat × Octets
  | v, [] => (v, 0, [])
  | v, c :: t =>
      match digitIn? base c with
      | some d =>
          let (v, n, rest) := digits base (v * base + d) t
          (v, n + 1, rest)
      | none => (v, 0, c :: t)

/-- The natural number at the beginning of a text: in base eight behind a zero, in base sixteen
behind `0x`, and else in base ten. -/
def natural (t : Octets) : Option (Nat × Octets) :=
  let plain := fun (base : Nat) =>
    let (v, n, rest) := digits base 0 t
    if n = 0 then none else some (v, rest)
  match t with
  | '0' :: x :: t' =>
      if x = 'x' ∨ x = 'X' then
        let (v, n, rest) := digits 16 0 t'
        if n = 0 then some (0, x :: t') else some (v, rest)
      else plain 8
  | _ => plain 10

/-- A character that counts as a blank in front of a number. -/
def isSpace (c : Char) : Bool :=
  c == ' ' || c == '\t' || c == '\n' || c == '\r' || c == '\x0b' || c == '\x0c'

/-- The integer at the beginning of a text, with a sign and with blanks in front of it, and the
rest; nothing if there is none. -/
def integer (t : Octets) : Option (Int × Octets) :=
  match t.dropWhile isSpace with
  | '-' :: t => (natural t).map fun (n, rest) => (-(n : Int), rest)
  | '+' :: t => (natural t).map fun (n, rest) => ((n : Int), rest)
  | t => (natural t).map fun (n, rest) => ((n : Int), rest)

/-- The value of a variable that holds a text; a blank text is zero. -/
def ofValue? (t : Octets) : Option Int :=
  match integer t with
  | some (n, rest) => if rest.all isSpace then some (saturate n) else none
  | none => if t.all isSpace then some 0 else none

/-- The integer that a text is in base ten, with blanks around it; nothing if it is none, or does
not fit. -/
def decimal? (t : Octets) : Option Int :=
  let (isNegative, t) := match t.dropWhile isSpace with
    | '-' :: t => (true, t)
    | '+' :: t => (false, t)
    | t => (false, t)
  let (v, n, rest) := digits 10 0 t
  let k : Int := if isNegative then -(v : Int) else v
  if n = 0 ∨ !rest.all isSpace ∨ k < least ∨ greatest < k then none else some k

end SkipAudit.Signed64
