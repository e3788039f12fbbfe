/-
The program that takes numbers apart into their prime factors.

Small factors are found by trying; larger ones by walking in a circle modulo the number until two
steps differ by a multiple of one of them.
-/
import SkipAudit.Number.Natural
import SkipAudit.Utility.Options

namespace SkipAudit.Utility

namespace Factoring

/-- A power modulo a number; the first number bounds the bits of the exponent. -/
def powerModulo (m : Nat) : Nat → Nat → Nat → Nat
  | 0, _, _ => 1 % m
  | n + 1, b, k =>
      if k = 0 then 1 % m
      else
        let half := powerModulo m n (b * b % m) (k / 2)
        if k % 2 = 1 then half * b % m else half

/-- How often two divides a number, and the rest; the number bounds how often. -/
def powersOfTwo : Nat → Nat → Nat × Nat
  | 0, n => (0, n)
  | fuel + 1, n =>
      if n % 2 = 1 || n = 0 then (0, n)
      else
        let (k, rest) := powersOfTwo fuel (n / 2)
        (k + 1, rest)

/-- Squaring a number so often comes by minus one. -/
def passesMinusOne (m : Nat) : Nat → Nat → Bool
  | 0, _ => false
  | n + 1, x => x == m - 1 || passesMinusOne m n (x * x % m)

/-- A number is no witness that another one can be divided. -/
def isNoWitness (n a : Nat) : Bool :=
  let bits := Nat.log2 n + 1
  let (k, odd) := powersOfTwo bits (n - 1)
  let x := powerModulo n bits (a % n) odd
  a % n == 0 || x == 1 || passesMinusOne n k x

/-- The numbers that are asked whether another one can be divided. -/
def witnesses : List Nat := [2, 3, 5, 7, 11, 13, 17, 19, 23, 29, 31, 37, 41, 43, 47]

/-- The number is prime. -/
def isPrime (n : Nat) : Bool :=
  2 ≤ n && (n == 2 || (n % 2 == 1 && witnesses.all (isNoWitness n)))

/-- Walk with one and with two steps at a time until a factor shows; the number bounds the
steps. -/
def walk (n step : Nat) : Nat → Nat → Nat → Option Nat
  | 0, _, _ => none
  | fuel + 1, x, y =>
      let next (z : Nat) : Nat := (z * z + step) % n
      let x := next x
      let y := next (next y)
      let d := Nat.gcd (if x < y then y - x else x - y) n
      if d = 1 then walk n step fuel x y
      else if d = n then none
      else some d

/-- How many steps a walk may have. -/
def manySteps : Nat := 3000000

/-- The prime factors of a number without small ones; the number bounds how many there are. -/
def largeFactors : Nat → Nat → List Nat
  | 0, n => [n]
  | fuel + 1, n =>
      if n < 2 then []
      else if isPrime n then [n]
      else match (List.range 20).findSome? fun i => walk n (i + 1) manySteps 2 2 with
        | some d => largeFactors fuel d ++ largeFactors fuel (n / d)
        | none => [n]

/-- Up to where factors are tried one after the other. -/
def trialBound : Nat := 2000

/-- Take small factors from a number, from one on; the number bounds how often. -/
def smallFactors : Nat → Nat → Nat → List Nat × Nat
  | 0, _, n => ([], n)
  | fuel + 1, d, n =>
      if trialBound < d || n < d * d then ([], n)
      else if n % d = 0 then
        let (ds, rest) := smallFactors fuel d (n / d)
        (d :: ds, rest)
      else smallFactors fuel (if d = 2 then 3 else d + 2) n

/-- The prime factors of a number, the smallest first. -/
def factors (n : Nat) : List Nat :=
  let (small, rest) := smallFactors (trialBound + Nat.log2 n + 1) 2 n
  small ++ (largeFactors (Nat.log2 n + 1) rest).mergeSort (· ≤ ·)

/-- The line for a number. -/
def line (n : Nat) : Octets :=
  let ds := if n < 2 then [] else factors n
  Text.ofNat n ++ ':' :: ds.flatMap (fun d => ' ' :: Text.ofNat d) ++ ['\n']

/-- The number that a word stands for. -/
def number? (t : Octets) : Option Nat :=
  let u := t.dropWhile (· == ' ')
  Text.toNat? (if u.head? = some '+' then u.drop 1 else u)

end Factoring

/-- Take numbers apart into their prime factors. -/
def factor : Utility := fun c =>
  withOptions 1 "" [] c fun p => do
    let words ← if p.rest ≠ [] then pure p.rest
      else match ← readInput ['-'] with
        | .ok t =>
            pure ((t.splitBy fun x y => isBlank x == isBlank y).filter fun w => !w.any isBlank)
        | .error e => c.die 1 (text "error reading input: " ++ e.reason)
    let status ← words.foldlM (fun (status : Nat) w => do
      match Factoring.number? w with
      | some n =>
          say c (Factoring.line n)
          return status
      | none =>
          c.warn (c.quote w ++ text " is not a valid positive integer")
          return 1) 0
    return status
where
  /-- What stands between numbers. -/
  isBlank (x : Char) : Bool := x = ' ' || x = '\t' || x = '\n'

end SkipAudit.Utility
