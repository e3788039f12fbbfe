/-
Inputs from which lines are taken one at a time.
-/
import SkipAudit.Utility.Basic

namespace SkipAudit.Utility

/-- An input, and the lines of it that were read and not taken yet. -/
structure LineSource where
  fd : Nat
  lineEnd : Char
  ready : List Octets
  /-- The beginning of a line whose end was not read yet. -/
  rest : Octets
  hasEnded : Bool

namespace LineSource

/-- An input from which nothing was read yet. -/
def ofInput (lineEnd : Char) (fd : Nat) : LineSource := ⟨fd, lineEnd, [], [], false⟩

/-- Read until there is a line to take, or the end is reached. -/
def fill (s : LineSource) : Action (Except FileError LineSource) :=
  Action.repeatUntil (.ok s) (fun (s : LineSource) => do
    if s.ready ≠ [] || s.hasEnded then return .inr (.ok s)
    else
      match ← Action.read s.fd Action.blockSize with
      | .error e => return .inr (.error e)
      | .ok [] =>
          return .inr (.ok { s with
            ready := if s.rest = [] then [] else [s.rest], rest := [], hasEnded := true })
      | .ok bytes =>
          let (ready, rest) := completeLines s.lineEnd (s.rest ++ bytes)
          return .inl { s with ready, rest }) Action.rounds s

/-- Take a line, without what ends it. -/
def next (s : LineSource) : Action (Except FileError (Option Octets × LineSource)) := do
  match ← s.fill with
  | .error e => return .error e
  | .ok s =>
      match s.ready with
      | [] => return .ok (none, s)
      | l :: ready => return .ok (some (Text.dropFinal s.lineEnd l), { s with ready })

end LineSource

/-- Output that waits until there is enough of it. -/
structure Pending where
  /-- The newest part first. -/
  parts : List Octets
  size : Nat

namespace Pending

/-- Nothing waits. -/
def none : Pending := ⟨[], 0⟩

/-- With one more part. -/
def add (p : Pending) (t : Octets) : Pending := ⟨t :: p.parts, p.size + t.length⟩

/-- All that waits. -/
def contents (p : Pending) : Octets := p.parts.reverse.flatten

/-- How much waits at most. -/
def bound : Nat := 4096

/-- What need not wait any longer, in blocks of the greatest size, and what waits on. -/
def ripe (p : Pending) : Octets × Pending :=
  if p.size ≤ bound then ([], p)
  else
    let (now, later) := p.contents.splitAt (p.size / bound * bound)
    (now, none.add later)

/-- Write all that waits. -/
def flush (c : Call) (p : Pending) : Action Pending := do
  if p.parts ≠ [] then say c p.contents
  return none

/-- Write what need not wait any longer. -/
def settle (c : Call) (p : Pending) : Action Pending := do
  let (now, p) := p.ripe
  if now ≠ [] then say c now
  return p

end Pending

end SkipAudit.Utility
