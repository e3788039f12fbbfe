/-
Changes of permissions, as they are spelled: a number in base eight, or clauses such as
`u+x,go=u-w`.
-/
import SkipAudit.FileSystem.Permissions

namespace SkipAudit

/-- What a clause sets, adds or takes away. -/
inductive ModeValue where
  | bits (n : Nat)
  /-- The bits, and those for executing if there are some already, or for a directory. -/
  | bitsAndSearch (n : Nat)
  /-- What the users have whose bits these are. -/
  | copy (users : Nat)
deriving DecidableEq, Repr

/-- One step of a change of permissions. -/
structure ModeChange where
  /-- One of `=`, `+` and `-`. -/
  operator : Char
  /-- The bits that may be changed; none if no users are named. -/
  affected : Nat
  value : ModeValue
  /-- The bits that are spelled out. -/
  mentioned : Nat
deriving DecidableEq, Repr

namespace ModeChange

/-- All bits of permissions. -/
def allBits : Nat := 0o7777

/-- The bits of a directory that stay unless they are spelled out. -/
def stickyBits : Nat := 0o6000

/-- The bits without some others. -/
def without (n m : Nat) : Nat := n &&& (allBits ^^^ (m &&& allBits))

/-- The bits of some users. -/
def usersOf? : Octets → Option Nat
  | [] => some 0
  | c :: cs => do
      let n ← match c with
        | 'u' => some 0o4700
        | 'g' => some 0o2070
        | 'o' => some 0o1007
        | 'a' => some allBits
        | _ => none
      return n ||| (← usersOf? cs)

/-- The bits that letters stand for, and whether a large X is among them. -/
def bitsOf? : Octets → Option (Nat × Bool)
  | [] => some (0, false)
  | c :: cs => do
      let (n, isSearch) ← match c with
        | 'r' => some (0o444, false)
        | 'w' => some (0o222, false)
        | 'x' => some (0o111, false)
        | 's' => some (0o6000, false)
        | 't' => some (0o1000, false)
        | 'X' => some (0, true)
        | _ => none
      let (m, others) ← bitsOf? cs
      return (n ||| m, isSearch || others)

/-- A character that says what is done. -/
def isOperator (c : Char) : Bool := c == '=' || c == '+' || c == '-'

/-- A digit of base eight. -/
def isOctal (c : Char) : Bool := '0' ≤ c && c ≤ '7'

/-- What stands behind the operator of a step, where some users are affected. -/
def step? (operator : Char) (affected : Nat) (isLast : Bool) (t : Octets) : Option ModeChange :=
  let made (value : ModeValue) (bits : Nat) : ModeChange :=
    ⟨operator, affected, value, if affected = 0 then bits else affected &&& bits⟩
  match t with
  | ['u'] => some (made (.copy 0o700) 0o700)
  | ['g'] => some (made (.copy 0o070) 0o070)
  | ['o'] => some (made (.copy 0o007) 0o007)
  | t =>
      if t.head?.any isOctal then
        match Permissions.octal? t with
        | some n =>
            if n ≤ allBits && affected = 0 && isLast then
              some ⟨operator, allBits, .bits n, allBits⟩
            else none
        | none => none
      else (bitsOf? t).map fun (n, isSearch) =>
        made (if isSearch then .bitsAndSearch n else .bits n) n

/-- The steps that follow the users of a clause; the number bounds how many. -/
def steps? (affected : Nat) : Nat → Octets → Option (List ModeChange)
  | 0, _ | _, [] => some []
  | n + 1, c :: cs => do
      if isOperator c = false then none
      let (value, rest) := cs.span (!isOperator ·)
      return (← step? c affected (rest == []) value) :: (← steps? affected n rest)

/-- The steps of a clause. -/
def clause? (t : Octets) : Option (List ModeChange) := do
  let (users, rest) := t.span (!isOperator ·)
  if rest = [] then none
  steps? (← usersOf? users) rest.length rest

/-- The change that a text spells. -/
def parse? (t : Octets) : Option (List ModeChange) :=
  if t.head?.any isOctal then do
    let n ← Permissions.octal? t
    if allBits < n then none
    return [⟨'=', allBits, .bits n, if t.length < 5 then n &&& stickyBits ||| 0o1777 else allBits⟩]
  else do return (← (Text.cutAt ',' t).mapM clause?).flatten

/-- The bits that somebody has, for everybody. -/
def spread (n : Nat) : Nat :=
  (if n &&& 0o444 = 0 then 0 else 0o444) ||| (if n &&& 0o222 = 0 then 0 else 0o222) |||
    (if n &&& 0o111 = 0 then 0 else 0o111)

/-- Permissions after a step; `mask` is what is not given to anybody unasked. -/
def after (isDir : Bool) (mask old : Nat) (m : ModeChange) : Nat :=
  let omitted := if isDir then without stickyBits m.mentioned else 0
  let value := match m.value with
    | .bits n => n
    | .bitsAndSearch n => if isDir || old &&& 0o111 ≠ 0 then n ||| 0o111 else n
    | .copy users => (old &&& users) ||| spread (old &&& users)
  let value := without (if m.affected = 0 then without value mask else value &&& m.affected) omitted
  match m.operator with
  | '+' => old ||| value
  | '-' => without old value
  | _ =>
      let kept := (if m.affected = 0 then 0 else without allBits m.affected) ||| omitted
      old &&& kept ||| value

/-- The bits that a step decides on, whatever they were before. -/
def decided (isDir : Bool) (mask old : Nat) (m : ModeChange) : Nat :=
  match m.operator with
  | '=' =>
      let omitted := if isDir then without stickyBits m.mentioned else 0
      allBits ^^^ ((if m.affected = 0 then 0 else without allBits m.affected) ||| omitted)
  | _ => (after isDir mask 0 { m with operator := '+' }) ||| (old ^^^ after isDir mask old m)

/-- The bits that a change decides on. -/
def allDecided (isDir : Bool) (mask : Nat) : Nat → List ModeChange → Nat
  | _, [] => 0
  | old, m :: ms => decided isDir mask old m ||| allDecided isDir mask (after isDir mask old m) ms

/-- Permissions after a change. -/
def adjust (ms : List ModeChange) (isDir : Bool) (mask old : Nat) : Nat :=
  ms.foldl (after isDir mask) old

end ModeChange

end SkipAudit
