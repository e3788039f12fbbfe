/-
Numbers, sizes and times as programs read them from their arguments.
-/
import SkipAudit.Number.Floating
import SkipAudit.Utility.Options

namespace SkipAudit.Utility

/-! ## Counts with a unit -/

/-- What is wrong with a count. -/
inductive CountFault where
  | invalid
  | badUnit
  | tooLarge
deriving DecidableEq, Repr

/-- The power of the base that a letter stands for. -/
def unitPower? (c : Char) : Option Nat :=
  match c with
  | 'k' | 'K' => some 1
  | 'm' | 'M' => some 2
  | 'g' | 'G' => some 3
  | 't' | 'T' => some 4
  | 'P' => some 5
  | 'E' => some 6
  | 'Z' => some 7
  | 'Y' => some 8
  | _ => none

/-- The factor that the letters of a unit stand for.  `known` are the letters that may stand for
one; a zero among them lets the base be told by more letters. -/
def unitFactor? (known : String) (t : Octets) : Option Nat :=
  match t with
  | [] => some 1
  | c :: rest =>
      if known.contains c = false || c = '0' then none
      else
        let takesBase := known.contains '0' && (unitPower? c).isSome
        let (base, rest) :=
          if takesBase then match rest with
            | 'i' :: 'B' :: rest => (1024, rest)
            | 'B' :: rest => (1000, rest)
            | rest => (1024, rest)
          else (1024, rest)
        if rest ≠ [] then none
        else match c with
          | 'b' => some 512
          | 'B' => some 1024
          | 'c' => some 1
          | 'w' => some 2
          | c => (unitPower? c).map fun k => Nat.pow base k

/-- The greatest count. -/
def greatestCount : Nat := Natural.twoTo 64 - 1

/-- Read a count: digits with a plus sign or without, and a unit among the known ones. -/
def count (known : String) (t : Octets) : Except CountFault Nat :=
  let t := t.dropWhile Signed64.isSpace
  let u := match t with
    | '+' :: u => u
    | u => u
  let (n, size, unit) := Signed64.digits 10 0 u
  let isBare := size = 0 && u = t && t.head?.any (known.contains ·)
  let (n, size) := if isBare then (1, 1) else (n, size)
  if size = 0 then .error .invalid
  else match unitFactor? known unit with
    | none => .error (if greatestCount < n then .invalid else .badUnit)
    | some k => if greatestCount < n * k then .error .tooLarge else .ok (n * k)

/-- Why a count is refused, beside that it is none. -/
def countReason : CountFault → Octets
  | .tooLarge => text ": Value too large for defined data type"
  | .invalid | .badUnit => []

/-- Read a count between two bounds, or end with a complaint. -/
def countOr (status : Nat) (c : Call) (what known : String) (least most : Nat) (t : Octets) :
    Action Nat :=
  let refuse (reason : Octets) : Action Nat :=
    c.die status (text what ++ text ": " ++ c.quote t ++ reason)
  match count known t with
  | .error e => refuse (countReason e)
  | .ok n =>
      if n < least then refuse (text ": Numerical result out of range")
      else if most < n then
        refuse (text (if n ≤ Natural.twoTo 30 then ": Numerical result out of range"
          else ": Value too large for defined data type"))
      else return n

/-- The units of sizes. -/
def sizeUnits : String := "bkKmMGTPEZY0"

/-- A number with a unit of size. -/
def size? (t : Octets) : Option Nat := (count sizeUnits t).toOption

/-- Read a count behind an option, with the complaints that name the option. -/
def optionCount (status : Nat) (c : Call) (option known : String) (t : Octets) : Action Nat :=
  match count known t with
  | .ok n => return n
  | .error .invalid =>
      c.die status (text "invalid " ++ text option ++ text " argument '" ++ t ++ ['\''])
  | .error .badUnit =>
      c.die status (text "invalid suffix in " ++ text option ++ text " argument '" ++ t ++ ['\''])
  | .error .tooLarge =>
      c.die status (text option ++ text " argument '" ++ t ++ text "' too large")

/-! ## Times -/

/-- The seconds in a unit of time. -/
def unitSeconds? : Octets → Option Nat
  | [] | ['s'] => some 1
  | ['m'] => some 60
  | ['h'] => some 3600
  | ['d'] => some 86400
  | _ => none

/-- Microseconds in a second. -/
def perSecond : Nat := 1000000

/-- No time is longer than this, in microseconds. -/
def forever : Nat := Natural.tenTo 17

/-- A length of time in microseconds: a number with a point or without, and a unit. -/
def duration? (t : Octets) : Option Nat := do
  let r ← Floating.read? .double t
  let k ← unitSeconds? r.rest
  match r.value with
  | .infinite false => some forever
  | .infinite true | .notANumber _ => none
  | .finite s m e =>
      if s && m ≠ 0 then none
      else
        let (num, den) := Binary64.scale m 1 e
        some (min forever ((num * k * perSecond + den - 1) / den))

end SkipAudit.Utility
