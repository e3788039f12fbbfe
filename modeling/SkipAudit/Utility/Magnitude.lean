/-
Sizes as people like to read them: a few digits and a letter.
-/
import SkipAudit.Number.Natural
import SkipAudit.Text.Octets

namespace SkipAudit

/-- How sizes are shown. -/
structure Magnitude where
  base : Nat
  /-- What is cut off counts as one more; or the nearest number is shown, of two the even one. -/
  roundsUp : Bool

namespace Magnitude

/-- The letters for the powers of the base. -/
def letters : List Char := "KMGTPEZY".toList

/-- A quotient, rounded. -/
def rounded (k : Magnitude) (num den : Nat) : Nat :=
  let q := num / den
  let r := num % den
  if k.roundsUp then (if r = 0 then q else q + 1)
  else if den < 2 * r || (2 * r = den && q % 2 = 1) then q + 1 else q

/-- The digits of a size that is not below a power of the base, and the power that they belong to
after rounding. -/
def digits (k : Magnitude) (power n : Nat) : Octets × Nat :=
  let unit := Nat.pow k.base power
  if power = 0 then (Text.ofNat n, 0)
  else
    let pointed (t : Nat) : Octets := Text.ofNat (t / 10) ++ '.' :: Text.ofNat (t % 10)
    if n < 10 * unit then
      let t := k.rounded (n * 10) unit
      (if t < 100 then pointed t else Text.ofNat (t / 10), power)
    else
      let m := k.rounded n unit
      if m = k.base then (text "1.0", power + 1) else (Text.ofNat m, power)

/-- The digits of a size, and the letter for the power of the base that they stand for. -/
def parts (k : Magnitude) (n : Nat) : Octets × Option Char :=
  let power := ((List.range letters.length).filter fun i => Nat.pow k.base (i + 1) ≤ n).length
  let (ds, power) := k.digits power n
  (ds, if power = 0 then none else letters[power - 1]?)

/-- A size with a letter behind it. -/
def write (k : Magnitude) (n : Nat) : Octets :=
  let (ds, letter?) := k.parts n
  ds ++ (letter?.map fun l => if k.base = 1000 && l = 'K' then 'k' else l).toList

end Magnitude

end SkipAudit
