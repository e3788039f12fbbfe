/-
Positive numbers of the binary64 format, in exact arithmetic.

A number is a significand of at most 53 bits times a power of two.  `ofRatio` rounds a quotient
of natural numbers to the nearest such number, a tie going to the even significand; all
arithmetic is an exact result rounded once.  The range of exponents is not bounded: the
numbers here are quotients of counts below 2^64, far from both ends of the format.
-/
import SkipAudit.Number.Natural
import SkipAudit.Text.Basic

namespace SkipAudit

/-- The number `significand * 2 ^ exponent`. -/
structure Binary64 where
  significand : Nat
  exponent : Int
deriving DecidableEq, Repr

namespace Binary64

open Natural (twoTo tenTo)

/-- The number of bits of a significand. -/
def precision : Nat := 53

/-- The quotient to the nearest natural number, a tie going to the even one.  `den` is
positive. -/
def divRound (num den : Nat) : Nat :=
  let q := num / den
  let r := num % den
  if den < 2 * r ∨ (2 * r = den ∧ q % 2 = 1) then q + 1 else q

/-- Scale a quotient by a power of two, as a quotient again. -/
def scale (num den : Nat) (e : Int) : Nat × Nat :=
  match e with
  | .ofNat k => (num * twoTo k, den)
  | .negSucc k => (num, den * twoTo (k + 1))

/-- The exponent with which the quotient has a significand of `precision` bits, the
integer part of the scaled quotient being taken. -/
def exponentOf (num den : Nat) : Int :=
  let e : Int := (Nat.log2 num : Int) - Nat.log2 den - (precision - 1 : Nat)
  let (n, d) := scale num den (-e)
  if n / d < twoTo (precision - 1) then e - 1 else e

/-- The nearest number to `num / den`.  `den` is positive. -/
def ofRatio (num den : Nat) : Binary64 :=
  if num = 0 then ⟨0, 0⟩
  else
    let e := exponentOf num den
    let (n, d) := scale num den (-e)
    let m := divRound n d
    if m = twoTo precision then ⟨twoTo (precision - 1), e + 1⟩ else ⟨m, e⟩

/-- The number as a quotient of natural numbers. -/
def ratio (x : Binary64) : Nat × Nat := scale x.significand 1 x.exponent

/-- The nearest number to a natural number. -/
def ofNat (n : Nat) : Binary64 := ofRatio n 1

/-- The product, rounded. -/
def mul (x y : Binary64) : Binary64 :=
  ofRatio (x.ratio.1 * y.ratio.1) (x.ratio.2 * y.ratio.2)

/-- The quotient, rounded.  The divisor is not zero. -/
def div (x y : Binary64) : Binary64 :=
  ofRatio (x.ratio.1 * y.ratio.2) (x.ratio.2 * y.ratio.1)

/-- The 64 bits of the number in the interchange format: a biased exponent above the
significand without its leading bit. -/
def bits (x : Binary64) : Nat :=
  if x.significand = 0 then 0
  else (x.exponent + 1075).toNat * twoTo (precision - 1) +
    (x.significand - twoTo (precision - 1))

/-- The number in decimal with a given number of places, the exact value being rounded
to the nearest, a tie going to the even last digit. -/
def toFixed (places : Nat) (x : Binary64) : Text :=
  let n := divRound (x.ratio.1 * tenTo places) x.ratio.2
  let fraction := Text.ofNat (n % tenTo places)
  Text.ofNat (n / tenTo places) ++ '.' ::
    (List.replicate (places - fraction.length) '0' ++ fraction)

end Binary64

end SkipAudit
