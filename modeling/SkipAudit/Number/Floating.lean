/-
Numbers with a binary point, of two sizes, as programs read them from text.

A finite number is a significand times a power of two; how many bits the significand has, and
between which bounds the power lies, is up to the format.  A text in base ten or sixteen becomes
the nearest number of the format, a tie going to the even significand.
-/
import SkipAudit.Number.Binary64
import SkipAudit.Number.Signed64

namespace SkipAudit

/-- The bounds of a format. -/
structure FloatFormat where
  /-- How many bits a significand has at most. -/
  precision : Nat
  /-- The least power of two that a significand is multiplied with. -/
  least : Int
  /-- All finite numbers are below this power of two. -/
  bound : Nat
deriving DecidableEq, Repr

namespace FloatFormat

/-- The format of 64 bits. -/
def double : FloatFormat := ⟨53, -1074, 1024⟩

/-- The format of 80 bits. -/
def extended : FloatFormat := ⟨64, -16445, 16384⟩

end FloatFormat

/-- A number with a sign. -/
inductive Floating where
  | finite (isNegative : Bool) (significand : Nat) (exponent : Int)
  | infinite (isNegative : Bool)
  | notANumber (isNegative : Bool)
deriving DecidableEq, Repr

namespace Floating

open Binary64 (scale divRound)
open Natural (twoTo tenTo)

/-- Zero. -/
def zero : Floating := .finite false 0 0

/-- A number that was read. -/
structure Reading where
  value : Floating
  /-- It is too large or too small for the format. -/
  isOutOfRange : Bool
  rest : Octets

/-- The nearest number to a quotient, and whether that is too large or too small. -/
def ofRatio (f : FloatFormat) (isNegative : Bool) (num den : Nat) : Floating × Bool :=
  if num = 0 then (.finite isNegative 0 0, false)
  else
    let guess : Int := (Nat.log2 num : Int) - Nat.log2 den - (f.precision - 1 : Nat)
    let (n, d) := scale num den (-guess)
    let e := max f.least (if n / d < twoTo (f.precision - 1) then guess - 1 else guess)
    let (n, d) := scale num den (-e)
    let m := divRound n d
    let isInexact := m * d ≠ n
    if f.bound < (Nat.log2 m : Int) + 1 + e then (.infinite isNegative, true)
    else (.finite isNegative m e, isInexact && m < twoTo (f.precision - 1))

/-- The value of a finite number as a quotient; zero for all others. -/
def ratio : Floating → Nat × Nat
  | .finite _ m e => scale m 1 e
  | _ => (0, 1)

/-- The number has a minus sign. -/
def isNegative : Floating → Bool
  | .finite s _ _ | .infinite s | .notANumber s => s

/-! ## Calculating -/

/-- The nearest number to a natural one. -/
def ofNat (f : FloatFormat) (n : Nat) : Floating := (ofRatio f false n 1).1

/-- The nearest number to an integer times a power of two. -/
def ofScaled (f : FloatFormat) (n : Int) (e : Int) : Floating :=
  let (num, den) := scale n.natAbs 1 e
  (ofRatio f (n < 0) num den).1

/-- The sum, rounded. -/
def add (f : FloatFormat) : Floating → Floating → Floating
  | .finite s m e, .finite s' m' e' =>
      let k := min e e'
      let signed (s : Bool) (m : Nat) (e : Int) : Int :=
        let n : Int := (m * twoTo (e - k).toNat : Nat)
        if s then -n else n
      let n := signed s m e + signed s' m' e'
      if n = 0 && s && s' then .finite true 0 0 else ofScaled f n k
  | .notANumber s, _ | _, .notANumber s => .notANumber s
  | .infinite s, .infinite s' => if s = s' then .infinite s else .notANumber true
  | .infinite s, _ | _, .infinite s => .infinite s

/-- The product, rounded. -/
def mul (f : FloatFormat) : Floating → Floating → Floating
  | .finite s m e, .finite s' m' e' =>
      let (num, den) := scale (m * m') 1 (e + e')
      (ofRatio f (s != s') num den).1
  | .notANumber s, _ | _, .notANumber s => .notANumber s
  | .infinite s, .finite s' m _ | .finite s m _, .infinite s' =>
      if m = 0 then .notANumber true else .infinite (s != s')
  | .infinite s, .infinite s' => .infinite (s != s')

/-- The quotient of finite numbers, rounded; the divisor is not zero. -/
def div (f : FloatFormat) : Floating → Floating → Floating
  | .finite s m e, .finite s' m' e' =>
      let (num, den) := scale m m' (e - e')
      (ofRatio f (s != s') num den).1
  | x, _ => x

/-- The number is zero. -/
def isZero : Floating → Bool
  | .finite _ m _ => m == 0
  | _ => false

/-! ## Reading -/

/-- More than any exponent that makes a difference. -/
def farExponent : Int := 100000

/-- The exponent behind a letter, if there is one, and the rest. -/
def exponent (letter : Char) (t : Octets) : Int × Octets :=
  match t with
  | e :: u =>
      if e.toLower = letter then
        let (isNegative, ds) := match u with
          | '-' :: u => (true, u)
          | '+' :: u => (false, u)
          | u => (false, u)
        let (v, n, rest) := Signed64.digits 10 0 ds
        if n = 0 then (0, t)
        else
          let k : Int := min farExponent v
          (if isNegative then -k else k, rest)
      else (0, t)
  | [] => (0, [])

/-- The digits of a number in a base: their value, how many there are in all, how many stand
behind the point, and the rest. -/
def digitsWithPoint (base : Nat) (t : Octets) : Nat × Nat × Nat × Octets :=
  let (v, n, rest) := Signed64.digits base 0 t
  match rest with
  | '.' :: u =>
      let (w, k, rest') := Signed64.digits base v u
      if n + k = 0 then (0, 0, 0, t) else (w, n + k, k, rest')
  | _ => (v, n, 0, rest)

/-- A number times a power of ten. -/
def ofDecimal (f : FloatFormat) (s : Bool) (v : Nat) (k : Int) : Floating × Bool :=
  let size : Int := (Nat.log2 v : Int) * 3 / 10 + k
  if v = 0 then (.finite s 0 0, false)
  else if 6000 < size then (.infinite s, true)
  else if size < -6000 then (.finite s 0 0, true)
  else match k with
    | .ofNat k => ofRatio f s (v * tenTo k) 1
    | .negSucc k => ofRatio f s v (tenTo (k + 1))

/-- A number times a power of two. -/
def ofHexadecimal (f : FloatFormat) (s : Bool) (v : Nat) (k : Int) : Floating × Bool :=
  let size : Int := (Nat.log2 v : Int) + k
  if v = 0 then (.finite s 0 0, false)
  else if 20000 < size then (.infinite s, true)
  else if size < -20000 then (.finite s 0 0, true)
  else
    let (n, d) := scale v 1 k
    ofRatio f s n d

/-- The words for what is no number between others, longest first. -/
def infinityWords : List Octets := [text "infinity", text "inf"]

/-- What may stand in parentheses behind the word for no number. -/
def annotation (t : Octets) : Octets :=
  match t with
  | '(' :: u =>
      let inner := u.takeWhile fun c => c.isAlphanum || c == '_'
      match u.drop inner.length with
      | ')' :: rest => rest
      | _ => t
  | _ => t

/-- The number without a sign at the beginning of a text. -/
def readUnsigned? (f : FloatFormat) (s : Bool) (t : Octets) : Option Reading :=
  let lower := t.map Char.toLower
  match infinityWords.find? (·.isPrefixOf lower) with
  | some w => some ⟨.infinite s, false, t.drop w.length⟩
  | none =>
      if (text "nan").isPrefixOf lower then some ⟨.notANumber s, false, annotation (t.drop 3)⟩
      else
        let decimal : Option Reading :=
          let (v, n, places, rest) := digitsWithPoint 10 t
          if n = 0 then none
          else
            let (k, rest) := exponent 'e' rest
            let (x, far) := ofDecimal f s v (k - places)
            some ⟨x, far, rest⟩
        if (text "0x").isPrefixOf lower then
          let (v, n, places, rest) := digitsWithPoint 16 (t.drop 2)
          if n = 0 then decimal
          else
            let (k, rest) := exponent 'p' rest
            let (x, far) := ofHexadecimal f s v (k - 4 * places)
            some ⟨x, far, rest⟩
        else decimal

/-- The number at the beginning of a text, with blanks and a sign in front of it. -/
def read? (f : FloatFormat) (t : Octets) : Option Reading :=
  match t.dropWhile Signed64.isSpace with
  | '-' :: t => readUnsigned? f true t
  | '+' :: t => readUnsigned? f false t
  | t => readUnsigned? f false t

/-- The order of numbers; what is no number comes before all others, and is like its own. -/
def compare : Floating → Floating → Ordering
  | .notANumber _, .notANumber _ => .eq
  | .notANumber _, _ => .lt
  | _, .notANumber _ => .gt
  | x, y => Ord.compare (rank x) (rank y) |>.then (finer x y)
where
  /-- Where a number lies, roughly. -/
  rank : Floating → Int
    | .infinite s => if s then -2 else 2
    | .finite s m _ => if m = 0 then 0 else if s then -1 else 1
    | .notANumber _ => 0
  /-- The order of two finite numbers of one sign. -/
  finer : Floating → Floating → Ordering
    | .finite s m e, .finite _ n k =>
        let (a, b) := scale m 1 e
        let (c, d) := scale n 1 k
        let o := Ord.compare (a * d) (c * b)
        if s then o.swap else o
    | _, _ => .eq

end Floating

end SkipAudit
