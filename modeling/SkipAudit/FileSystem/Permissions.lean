/-
Permissions of files, as numbers and in letters.
-/
import SkipAudit.Text.Octets

namespace SkipAudit.Permissions

/-- All permissions there are. -/
def all : Nat := 0o777

/-- The permissions of one kind of users in letters. -/
def letters (n : Nat) : Octets :=
  (if n / 4 % 2 = 1 then ['r'] else []) ++ (if n / 2 % 2 = 1 then ['w'] else []) ++
    (if n % 2 = 1 then ['x'] else [])

/-- Permissions in letters. -/
def symbolic (n : Nat) : Octets :=
  text "u=" ++ letters (n / 64 % 8) ++ text ",g=" ++ letters (n / 8 % 8) ++ text ",o=" ++
    letters (n % 8)

/-- Somebody may execute the file. -/
def areExecutable (n : Nat) : Bool := n &&& 0o111 != 0

/-- The permissions that letters stand for, for all users, where there are others already. -/
def permissionsOf? (old : Nat) (ls : Octets) : Option Nat :=
  ls.foldlM (fun n c => match c with
    | 'r' => some (n ||| 0o444)
    | 'w' => some (n ||| 0o222)
    | 'x' => some (n ||| 0o111)
    | 'X' => some (if areExecutable old then n ||| 0o111 else n)
    | 's' | 't' => some n
    | _ => none) 0

/-- The users that letters stand for, as all their permissions. -/
def usersOf? (ls : Octets) : Option Nat :=
  if ls = [] then some all
  else
    ls.foldlM (fun n c => match c with
      | 'u' => some (n ||| 0o700)
      | 'g' => some (n ||| 0o070)
      | 'o' => some (n ||| 0o007)
      | 'a' => some (n ||| all)
      | _ => none) 0

/-- Permissions changed by a clause such as `g-w`. -/
def changed? (n : Nat) (clause : Octets) : Option Nat := do
  let (who, rest) := clause.span fun c => !"+-=".contains c
  let users ← usersOf? who
  match rest with
  | op :: ls =>
      let chosen := (← permissionsOf? n ls) &&& users
      if op = '+' then return n ||| chosen
      else if op = '-' then return n &&& (all ^^^ chosen)
      else return (n &&& (all ^^^ users)) ||| chosen
  | [] => none

/-- Permissions written in base eight. -/
def octal? (t : Octets) : Option Nat :=
  if t ≠ [] && t.all fun c => '0' ≤ c && c ≤ '7' then
    some (t.foldl (fun n c => n * 8 + (c.toNat - '0'.toNat)) 0)
  else none

/-- Permissions changed as a text says: to a number in base eight, or by clauses. -/
def after? (n : Nat) (t : Octets) : Option Nat :=
  match octal? t with
  | some m => if m ≤ 0o7777 then some (m % (all + 1)) else none
  | none => (Text.cutAt ',' t).foldlM changed? n

/-- The letters for one kind of users in a listing: `special` stands in the place of the last
one, small or large, if the bit beside them is set. -/
def triple (n : Nat) (bit : Bool) (special : Char) : Octets :=
  [if n / 4 % 2 = 1 then 'r' else '-', if n / 2 % 2 = 1 then 'w' else '-',
   if bit then (if n % 2 = 1 then special else special.toUpper)
   else if n % 2 = 1 then 'x' else '-']

/-- Permissions as a listing shows them. -/
def listed (n : Nat) : Octets :=
  triple (n / 64 % 8) (n / 0o4000 % 2 == 1) 's' ++ triple (n / 8 % 8) (n / 0o2000 % 2 == 1) 's' ++
    triple (n % 8) (n / 0o1000 % 2 == 1) 't'

/-- A number in base eight. -/
def inOctal (n : Nat) : Octets := Nat.toDigits 8 n

end SkipAudit.Permissions
