/-
Carrying out a script, line after line.

A script that stands in a file is read in blocks, and the next block only when the lines in the
last one have been carried out.
-/
import SkipAudit.Shell.Parser
import SkipAudit.Shell.Run

namespace SkipAudit.Shell.Source

open Run

/-- How much of a script is read at once. -/
def blockSize : Nat := 8192

/-- A script that is being carried out. -/
structure State where
  script : Script
  /-- Something has been carried out already. -/
  hasBegun : Bool

/-- Read on in a script. -/
def readOn (fd? : Option Nat) (s : Script) : Run Script := do
  match fd? with
  | none => return { s with isComplete := true }
  | some fd =>
      match ← act (Action.read fd blockSize) with
      | .ok [] | .error _ => return { s with isComplete := true }
      | .ok bytes => return { s with rest := s.rest ++ bytes }

/-- Show the part of a script that has been read, if that is wanted. -/
def showRead (fd? : Option Nat) (before after : Script) : Run Unit := do
  if fd?.isSome && (← get).has 'v' then
    emitError (before.rest.take (before.rest.length - after.rest.length))

/-- Carry out the next line of a script. -/
def line (command : Position → Command → Run Unit) (p : Position) (fd? : Option Nat)
    (s : State) : Run (State ⊕ Unit) := do
  match s.script.nextLine (← get).aliases with
  | .incomplete => return .inl { s with script := ← readOn fd? s.script }
  | .bad line message =>
      modify ({ · with line })
      fail (text "Syntax error: " ++ message)
  | .ended =>
      if !s.hasBegun then setStatus 0
      return .inr ()
  | .commands none _ rest =>
      showRead fd? s.script rest
      return .inl { s with script := rest }
  | .commands (some c) isLast rest =>
      showRead fd? s.script rest
      modify ({ · with readLine := rest.line })
      command { p with isLast := p.isLast && isLast } c
      if (← get).skip = .none then return .inl ⟨rest, true⟩ else return .inr ()

/-- Carry out a script.  What stands behind its known part is read from a descriptor. -/
def carryOut (command : Position → Command → Run Unit) (p : Position) (fd? : Option Nat)
    (s : Script) : Run Unit :=
  do
    let old := (← get).readLine
    iterate (line command p fd?) Action.rounds ⟨s, false⟩
    modify ({ · with readLine := old })

end SkipAudit.Shell.Source
