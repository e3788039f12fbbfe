/-
Zones: how far the clocks of a place are ahead of the general time.

A zone is spelled as its name with the hours by which its clocks are behind.
-/
import SkipAudit.Text.Octets

namespace SkipAudit

/-- A zone in which the clocks are never changed. -/
structure Zone where
  name : Octets
  /-- How many seconds its clocks are ahead. -/
  offset : Int
deriving DecidableEq, Repr

namespace Zone

/-- The general time. -/
def universal : Zone := ⟨text "UTC", 0⟩

/-- A number of at most so many digits at the beginning of a text. -/
def shortNumber (most : Nat) (t : Octets) : Option (Nat × Octets) :=
  let ds := (t.take most).takeWhile Char.isDigit
  (Text.toNat? ds).map (·, t.drop ds.length)

/-- Hours with minutes and seconds, in seconds, at the beginning of a text. -/
def length? (t : Octets) : Option (Nat × Octets) := do
  let (h, rest) ← shortNumber 3 t
  match rest with
  | ':' :: u =>
      match shortNumber 2 u with
      | some (m, ':' :: v) =>
          match shortNumber 2 v with
          | some (s, rest) => some (h * 3600 + m * 60 + s, rest)
          | none => some (h * 3600 + m * 60, ':' :: v)
      | some (m, rest) => some (h * 3600 + m * 60, rest)
      | none => some (h * 3600, rest)
  | _ => some (h * 3600, rest)

/-- The zone that a text spells. -/
def ofText? (t : Octets) : Option Zone := do
  let t := if t.head? = some ':' then t.drop 1 else t
  let (name, rest) := match t with
    | '<' :: u => (u.takeWhile (· != '>'), (u.dropWhile (· != '>')).drop 1)
    | u => u.span Char.isAlpha
  if name.length < 3 then none
  let (isAhead, rest) := match rest with
    | '-' :: u => (true, u)
    | '+' :: u => (false, u)
    | u => (false, u)
  let (n, _) ← length? rest
  return ⟨name, if isAhead then (n : Int) else -(n : Int)⟩

/-- The zone that a variable stands for; what is not known counts as the general time under
another name. -/
def ofVariable (value? : Option Octets) : Zone :=
  match value? with
  | none | some [] => universal
  | some t =>
      match ofText? t with
      | some z => z
      | none =>
          let name := t.takeWhile Char.isAlpha
          ⟨if 3 ≤ name.length && name.length = t.length then name else text "UTC", 0⟩

end Zone

end SkipAudit
