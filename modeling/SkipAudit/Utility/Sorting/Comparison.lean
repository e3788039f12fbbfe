/-
How texts are compared where lines are sorted.
-/
import SkipAudit.Number.Floating
import SkipAudit.Text.Versions

namespace SkipAudit

/-- What is compared. -/
inductive Kind where
  /-- The bytes. -/
  | text
  /-- A number in base ten at the beginning. -/
  | number
  /-- A number with a point and an exponent at the beginning. -/
  | floating
  /-- A number with the letter of a unit. -/
  | unit
  | month
  | version
  /-- Nothing that has an order. -/
  | random
deriving DecidableEq, Repr

/-- How texts are compared. -/
structure Comparison where
  skipsBlanks : Bool
  /-- Only letters, digits and blanks count. -/
  onlyWords : Bool
  foldsCase : Bool
  onlyPrinted : Bool
  isReverse : Bool
  /-- What is compared; more than one of them is refused. -/
  kinds : List Kind
deriving DecidableEq, Repr

namespace Comparison

/-- The letters of kinds. -/
def kindLetters : List (Char × Kind) :=
  [('g', .floating), ('h', .unit), ('M', .month), ('n', .number), ('R', .random), ('V', .version)]

/-- The letters that say how texts are compared. -/
def letters : Octets := text "bdfgihMnRrV"

/-- The comparison that letters ask for. -/
def ofLetters (ls : List Char) : Comparison :=
  let words := (ls.filter fun c => c = 'd' || c = 'i').getLast?
  ⟨ls.contains 'b', words = some 'd', ls.contains 'f', words = some 'i', ls.contains 'r',
    kindLetters.filterMap fun (c, k) => if ls.contains c then some k else none⟩

/-- What is compared. -/
def kind (c : Comparison) : Kind := c.kinds.headD .text

/-- Nothing is asked for but the reversal. -/
def isUsual (c : Comparison) : Bool :=
  !(c.skipsBlanks || c.onlyWords || c.foldsCase || c.onlyPrinted) && c.kinds = []

/-- The letters of a comparison that cannot stand together, if there are any. -/
def conflict? (c : Comparison) : Option Octets :=
  let apart := c.kinds.filter fun k => k ≠ .version && k ≠ .random
  let others :=
    c.onlyWords || c.onlyPrinted || c.kinds.contains .version || c.kinds.contains .random
  if 1 < apart.length + (if others then 1 else 0) then
    let has (l : Char) : Bool :=
      if l = 'd' then c.onlyWords
      else if l = 'i' then c.onlyPrinted
      else if l = 'f' then c.foldsCase
      else (kindLetters.lookup l).any c.kinds.contains
    some (letters.filter has)
  else none

/-! ## Numbers -/

/-- A blank. -/
def isBlank (c : Char) : Bool := c == ' ' || c == '\t' || c == '\n'

/-- A number at the beginning of a text. -/
structure Leading where
  isNegative : Bool
  /-- The digits in front of the point, without zeros at the beginning. -/
  whole : Octets
  /-- The digits behind the point, without zeros at the end. -/
  places : Octets
  /-- How many characters the number takes up, and how many of them are digits. -/
  size : Nat
  digits : Nat
  rest : Octets

/-- The number at the beginning of a text without blanks in front. -/
def leading (t : Octets) : Leading :=
  let (isNegative, u) := match t with
    | '-' :: u => (true, u)
    | u => (false, u)
  let whole := u.takeWhile Char.isDigit
  let (places, rest) := match u.drop whole.length with
    | '.' :: v =>
        let ds := v.takeWhile Char.isDigit
        (ds, v.drop ds.length)
    | v => ([], v)
  ⟨isNegative, whole.dropWhile (· == '0'), (places.reverse.dropWhile (· == '0')).reverse,
    t.length - rest.length, whole.length + places.length, rest⟩

/-- The number is zero. -/
def Leading.isZero (n : Leading) : Bool := n.whole = [] && n.places = []

/-- Compare texts byte by byte. -/
def compareText (a b : Octets) : Ordering :=
  if a = b then .eq else if Text.le a b then .lt else .gt

/-- Compare numbers without their signs. -/
def compareSizes (a b : Leading) : Ordering :=
  match Versions.compareDigits a.whole b.whole with
  | .eq => compareText a.places b.places
  | o => o

/-- Compare numbers. -/
def compareLeading (a b : Leading) : Ordering :=
  match a.isNegative && !a.isZero, b.isNegative && !b.isZero with
  | true, false => .lt
  | false, true => .gt
  | false, false => compareSizes a b
  | true, true => compareSizes b a

/-- The letters of units, from small to large. -/
def unitLetters : Octets := text "KMGTPEZY"

/-- The rank of the unit behind a number, negative for a negative number. -/
def unitRank (n : Leading) : Int :=
  if n.isZero then 0
  else
    let rank : Int := match n.rest.head? with
      | some 'k' => 1
      | some c => ((unitLetters.findIdx? (· == c)).map fun i => (i : Int) + 1).getD 0
      | none => 0
    if n.isNegative then -rank else rank

/-- The number of the month at the beginning of a text; zero for everything else. -/
def monthNumber (t : Octets) : Nat :=
  let names := ["JAN", "FEB", "MAR", "APR", "MAY", "JUN", "JUL", "AUG", "SEP", "OCT", "NOV", "DEC"]
  let start := (t.take 3).map Char.toUpper
  ((names.findIdx? fun n => text n == start).map (· + 1)).getD 0

/-- Compare numbers with points; what is none comes first. -/
def compareFloating (a b : Octets) : Ordering :=
  match Floating.read? .extended a, Floating.read? .extended b with
  | none, none => .eq
  | none, some _ => .lt
  | some _, none => .gt
  | some x, some y => Floating.compare x.value y.value

/-! ## Texts -/

/-- What counts of a text. -/
def prepared (c : Comparison) (t : Octets) : Octets :=
  let t := if c.onlyWords then t.filter fun x => x.isAlphanum || x == ' ' || x == '\t' else t
  let t := if c.onlyPrinted then t.filter fun x => 32 ≤ x.toNat && x.toNat < 127 else t
  if c.foldsCase then t.map Char.toUpper else t

/-- Compare two texts, apart from the reversal. -/
def forward (c : Comparison) (a b : Octets) : Ordering :=
  let a := c.prepared a
  let b := c.prepared b
  let bare (t : Octets) : Octets := t.dropWhile isBlank
  match c.kind with
  | .text | .random => compareText a b
  | .number => compareLeading (leading (bare a)) (leading (bare b))
  | .floating => compareFloating a b
  | .unit =>
      let x := leading (bare a)
      let y := leading (bare b)
      (compare (unitRank x) (unitRank y)).then (compareLeading x y)
  | .month => compare (monthNumber (bare a)) (monthNumber (bare b))
  | .version => Versions.compare a b

/-- Compare two texts. -/
def of (c : Comparison) (a b : Octets) : Ordering :=
  if c.isReverse then (c.forward a b).swap else c.forward a b

end Comparison

end SkipAudit
