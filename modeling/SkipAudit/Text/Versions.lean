/-
The order of versions: texts in which numbers count by their value.

Parts without digits are compared letter by letter, where letters come before all other
characters and a tilde comes before everything, even before the end.  Endings such as `.tar.gz`
count only if nothing else differs.
-/
import SkipAudit.Text.Octets

namespace SkipAudit.Versions

/-- The rank of what stands at the beginning of a text. -/
def rank : Octets → Int
  | [] => -1
  | c :: _ =>
      if c.isDigit then 0
      else if c.isAlpha then c.toNat
      else if c = '~' then -2
      else (c.toNat : Int) + 256

/-- Compare the digits of two numbers without zeros at their beginnings. -/
def compareDigits (a b : Octets) : Ordering :=
  match compare a.length b.length with
  | .eq => if a = b then .eq else if Text.le a b then .lt else .gt
  | o => o

/-- Compare texts part by part; the number bounds their length. -/
def compareParts : Nat → Octets → Octets → Ordering
  | 0, _, _ => .eq
  | n + 1, a, b =>
      if a = [] && b = [] then .eq
      else if (a.head?.map Char.isDigit).getD true && (b.head?.map Char.isDigit).getD true then
        let a := a.dropWhile (· == '0')
        let b := b.dropWhile (· == '0')
        let x := a.takeWhile Char.isDigit
        let y := b.takeWhile Char.isDigit
        match compareDigits x y with
        | .eq => compareParts n (a.drop x.length) (b.drop y.length)
        | o => o
      else match compare (rank a) (rank b) with
        | .eq => compareParts n (a.drop 1) (b.drop 1)
        | o => o

/-- A piece behind a point is an ending: it begins with a letter. -/
def isEnding (piece : Octets) : Bool :=
  (piece.head?.map fun c => c.isAlpha || c = '~').getD false &&
    piece.all fun c => c.isAlphanum || c = '~'

/-- The text without endings. -/
def withoutEndings (t : Octets) : Octets :=
  match Text.cutAt '.' t with
  | [] => []
  | stem :: pieces =>
      let kept := (pieces.reverse.dropWhile isEnding).reverse
      (List.intersperse ['.'] (stem :: kept)).flatten

/-- Where a name stands among those that begin with a point, and all others. -/
def dotRank (t : Octets) : Nat :=
  match t with
  | [] => 0
  | ['.'] => 1
  | ['.', '.'] => 2
  | '.' :: _ => 3
  | _ => 4

/-- Compare two versions. -/
def compare (a b : Octets) : Ordering :=
  let size := a.length + b.length + 1
  match Ord.compare (dotRank a) (dotRank b) with
  | .eq =>
      let x := withoutEndings a
      let y := withoutEndings b
      match compareParts size x y with
      | .eq => if x = a && y = b then .eq else compareParts size a b
      | o => o
  | o => o

end SkipAudit.Versions
