/-
Text as a list of characters, and the few operations on it that every other
module uses: taking a known ending off, testing for an ending, writing a number
in decimal, cutting at a separator.

Characters are kept as a list, so that a text can be taken apart by recursion;
strings appear only where the program meets its surroundings.
-/

namespace SkipAudit

/-- A text: its characters in order. -/
abbrev Text := List Char

/-- One line of a text, with its line feed if it has one. -/
abbrev Line := Text

/-- The text of a string. -/
abbrev text (s : String) : Text := s.toList

namespace Text

/-- A table of words, with the words as texts. -/
def keyed {α : Type} (table : List (String × α)) : List (Text × α) :=
  table.map fun x => (text x.1, x.2)

/-- `t` ends in `ending`. -/
def endsWith (ending t : Text) : Bool := ending.isSuffixOf t

/-- `t` begins with `start`. -/
def startsWith (start t : Text) : Bool := start.isPrefixOf t

/-- `t` without the `start` it begins with. -/
def dropStart? : Text → Text → Option Text
  | [], t => some t
  | _ :: _, [] => none
  | s :: start, c :: t => if s = c then dropStart? start t else none

/-- `t` without the `ending` it ends in. -/
def dropEnding? (ending t : Text) : Option Text :=
  (dropStart? ending.reverse t.reverse).map List.reverse

/-- `t` without one final `c`, if it has one. -/
def dropFinal (c : Char) (t : Text) : Text :=
  if t.getLast? = some c then t.dropLast else t

/-- The parts of `t` between the occurrences of `sep`; at least one part. -/
def cutAt (sep : Char) : Text → List Text
  | [] => [[]]
  | c :: t =>
      if c = sep then [] :: cutAt sep t
      else match cutAt sep t with
        | [] => [[c]]
        | p :: ps => (c :: p) :: ps

/-- A natural number in decimal. -/
def ofNat (n : Nat) : Text := Nat.toDigits 10 n

/-- An integer in decimal, with a leading minus sign when it is negative. -/
def ofInt : Int → Text
  | .ofNat n => ofNat n
  | .negSucc n => '-' :: ofNat (n + 1)

/-- The value of a decimal digit. -/
def digit? (c : Char) : Option Nat :=
  if '0' ≤ c ∧ c ≤ '9' then some (c.toNat - '0'.toNat) else none

/-- The value of a text of decimal digits alone, at least one; leading zeros are
allowed. -/
def toNat? : Text → Option Nat
  | [] => none
  | c :: t => (c :: t).foldl (fun acc d => do return (← acc) * 10 + (← digit? d)) (some 0)

/-- Lexicographic order by code point: it is also the order of the UTF-8 bytes. -/
def le : Text → Text → Bool
  | [], _ => true
  | _ :: _, [] => false
  | a :: s, b :: t => if a = b then le s t else decide (a < b)

end Text

end SkipAudit
