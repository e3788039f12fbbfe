/-
The directives of formats: how an argument is written.
-/
import SkipAudit.Number.Floating

namespace SkipAudit.Format

open Natural (tenTo)

/-- A directive, its letter apart. -/
structure Directive where
  /-- The flags among `-`, `+`, the blank, `0` and `#`. -/
  flags : List Char
  width : Nat
  precision? : Option Nat
deriving DecidableEq, Repr

namespace Directive

/-- The directive has a flag. -/
def has (d : Directive) (flag : Char) : Bool := d.flags.contains flag

/-- A text in its field, with something in front that stays in front of zeros. -/
def placed (d : Directive) (zeros : Bool) (front body : Octets) : Octets :=
  let missing := d.width - (front.length + body.length)
  if d.has '-' then front ++ body ++ List.replicate missing ' '
  else if zeros && d.has '0' then front ++ List.replicate missing '0' ++ body
  else List.replicate missing ' ' ++ front ++ body

/-- A text, cut to the precision. -/
def onText (d : Directive) (t : Octets) : Octets :=
  d.placed false [] (match d.precision? with
    | some p => t.take p
    | none => t)

/-- The sign of a number that may be negative. -/
def sign (d : Directive) (isNegative : Bool) : Octets :=
  if isNegative then ['-'] else if d.has '+' then ['+'] else if d.has ' ' then [' '] else []

/-- The digits of a number with at least as many as the precision says. -/
def digits (d : Directive) (base n : Nat) : Octets :=
  let ds := if n = 0 && d.precision? = some 0 then [] else Nat.toDigits base n
  List.replicate (d.precision?.getD 1 - ds.length) '0' ++ ds

/-- An integer in base ten. -/
def onInteger (d : Directive) (n : Int) : Octets :=
  d.placed d.precision?.isNone (d.sign (n < 0)) (d.digits 10 n.natAbs)

/-- A natural number; the letter says in which base and with which digits. -/
def onNatural (d : Directive) (letter : Char) (n : Nat) : Octets :=
  let zeros := d.precision?.isNone
  match letter with
  | 'o' =>
      let ds := d.digits 8 n
      d.placed zeros [] (if d.has '#' && ds.head? ≠ some '0' then '0' :: ds else ds)
  | 'x' => d.placed zeros (if d.has '#' && n ≠ 0 then ['0', 'x'] else []) (d.digits 16 n)
  | 'X' =>
      d.placed zeros (if d.has '#' && n ≠ 0 then ['0', 'X'] else [])
        ((d.digits 16 n).map Char.toUpper)
  | _ => d.placed zeros [] (d.digits 10 n)

/-! ## Fractions -/

/-- A text of digits with a point in front of the last ones. -/
def pointed (d : Directive) (places : Nat) (n : Nat) : Octets :=
  let ds := Text.ofNat n
  let ds := List.replicate (places + 1 - ds.length) '0' ++ ds
  let whole := ds.take (ds.length - places)
  let rest := ds.drop (ds.length - places)
  if places = 0 then (if d.has '#' then whole ++ ['.'] else whole) else whole ++ '.' :: rest

/-- A quotient with a number of places. -/
def fixed (d : Directive) (places num den : Nat) : Octets :=
  d.pointed places (Binary64.divRound (num * tenTo places) den)

/-- The number of the leading digit of a positive quotient: zero for that of the ones. -/
def leading (num den : Nat) : Int :=
  if den ≤ num then (Text.ofNat (num / den)).length - 1
  else
    let k := (Text.ofNat den).length - (Text.ofNat num).length
    if den ≤ num * tenTo k then -(k : Int) else -(k + 1 : Int)

/-- A quotient times a power of ten, to the nearest natural number. -/
def scaledBy (num den : Nat) (k : Int) : Nat :=
  match k with
  | .ofNat k => Binary64.divRound (num * tenTo k) den
  | .negSucc k => Binary64.divRound num (den * tenTo (k + 1))

/-- The digits of a positive quotient in front of and behind the point, with the number of the
leading digit. -/
def scientific (places num den : Nat) : Nat × Int :=
  let k := leading num den
  let n := scaledBy num den ((places : Int) - k)
  if n < tenTo (places + 1) then (n, k) else (n / 10, k + 1)

/-- An exponent, with at least two digits. -/
def exponent (upper : Bool) (k : Int) : Octets :=
  let ds := Text.ofNat k.natAbs
  (if upper then 'E' else 'e') :: (if k < 0 then '-' else '+') ::
    (List.replicate (2 - ds.length) '0' ++ ds)

/-- A quotient with an exponent. -/
def withExponent (d : Directive) (upper : Bool) (places num den : Nat) : Octets :=
  let (n, k) := if num = 0 then (0, 0) else scientific places num den
  d.pointed places n ++ exponent upper k

/-- A text of digits without the zeros at its end, if there is a point. -/
def trimmed (t : Octets) : Octets :=
  if t.contains '.' then
    let u := (t.reverse.dropWhile (· == '0')).reverse
    Text.dropFinal '.' u
  else t

/-- A quotient, with an exponent only if it is very large or very small. -/
def general (d : Directive) (upper : Bool) (num den : Nat) : Octets :=
  let p := max 1 (d.precision?.getD 6)
  let k := if num = 0 then 0 else (scientific (p - 1) num den).2
  let keep := fun t => if d.has '#' then t else trimmed t
  if -4 ≤ k ∧ k < (p : Int) then keep (d.fixed ((p : Int) - 1 - k).toNat num den)
  else
    let t := d.withExponent upper (p - 1) num den
    let (body, tail) := t.span fun c => c != 'e' && c != 'E'
    keep body ++ tail

/-- A significand and an exponent so that the first digit in base sixteen takes up `lead` bits,
in a format; the digits behind the point are whole. -/
def hexParts (f : FloatFormat) (lead m : Nat) (e : Int) : Nat × Int × Nat :=
  let shift := f.precision - (Nat.log2 m + 1)
  let places := (f.precision - lead + 3) / 4
  let extra := 4 * places - (f.precision - lead)
  (m * Natural.twoTo (shift + extra), e - shift - extra, places)

/-- A positive number in base sixteen. -/
def hexadecimal (d : Directive) (f : FloatFormat) (m : Nat) (e : Int) : Octets :=
  let lead := if f.precision = 64 then 4 else 1
  let point (ds : Octets) (places : Nat) (k : Int) : Octets :=
    let whole := ds.take (ds.length - places)
    let fraction := ds.drop (ds.length - places)
    let fraction := match d.precision? with
      | some p => fraction ++ List.replicate (p - places) '0'
      | none => (fraction.reverse.dropWhile (· == '0')).reverse
    whole ++ (if fraction = [] && !d.has '#' then [] else '.' :: fraction) ++ ['p'] ++
      (if k < 0 then ['-'] else ['+']) ++ Text.ofNat k.natAbs
  if m = 0 then point ('0' :: List.replicate 0 '0') 0 0
  else
    let (n, k, places) := hexParts f lead m e
    let k := k + 4 * places
    match d.precision? with
    | some p =>
        if p < places then
          let n := Binary64.divRound n (Natural.twoTo (4 * (places - p)))
          point (Nat.toDigits 16 n) p k
        else point (Nat.toDigits 16 n) places k
    | none => point (Nat.toDigits 16 n) places k

/-- A number that is the quotient of natural numbers, with a sign. -/
def onQuotient (d : Directive) (letter : Char) (isNegative : Bool) (num den : Nat) : Octets :=
  let body := match letter with
    | 'e' => d.withExponent false (d.precision?.getD 6) num den
    | 'E' => d.withExponent true (d.precision?.getD 6) num den
    | 'g' => d.general false num den
    | 'G' => d.general true num den
    | _ => d.fixed (d.precision?.getD 6) num den
  d.placed true (d.sign isNegative) body

/-- What is no number, as a text in its field. -/
def onWord (d : Directive) (isNegative : Bool) (word : Octets) : Octets :=
  d.placed false (d.sign isNegative) word

/-- A number of some format. -/
def onFloating (d : Directive) (f : FloatFormat) (letter : Char) (x : Floating) : Octets :=
  let raised (t : Octets) : Octets := if letter.isUpper then t.map Char.toUpper else t
  match x with
  | .infinite s => d.onWord s (raised (text "inf"))
  | .notANumber s => d.onWord s (raised (text "nan"))
  | .finite s m e =>
      if letter = 'a' || letter = 'A' then
        d.placed true (d.sign s ++ raised (text "0x")) (raised (d.hexadecimal f m e))
      else
        let (num, den) := x.ratio
        d.onQuotient letter s num den

end Directive

end SkipAudit.Format
