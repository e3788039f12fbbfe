/-
Redirections.

A redirection gives a descriptor another file.  Around a command that the shell carries out
itself the old one is kept under a high descriptor and brought back afterwards.
-/
import SkipAudit.Shell.Expansion

namespace SkipAudit.Shell

namespace Redirecting

open Run

/-- A redirection whose word has been expanded. -/
inductive Ready where
  | file (fd : Nat) (opening : Opening) (path : Octets)
  | copy (fd source : Nat)
  | close (fd : Nat)
  | document (fd : Nat) (text : Octets)
deriving DecidableEq, Repr

/-- The descriptor that a redirection changes. -/
def Ready.descriptor : Ready → Nat
  | .file fd _ _ | .copy fd _ | .close fd | .document fd _ => fd

/-- It changes nothing: a descriptor shall lead where it leads. -/
def Ready.isIdle : Ready → Bool
  | .copy fd source => fd == source
  | _ => false

/-- Fail because of a word that should tell a descriptor; it is an error of the script, which has
been read up to some line. -/
def failDescriptor {α : Type} : Run α := do
  modify fun s => { s with line := s.readLine }
  fail (text "Syntax error: Bad fd number")

/-- Expand the word of a redirection. -/
def ready (e : Evaluator) : Redirection → Run Ready
  | .file fd opening w => do return .file fd opening (← Expansion.textIn e .text w)
  | .copy fd source => return .copy fd source
  | .close fd => return .close fd
  | .copyNamed fd w => do
      match ← Expansion.textIn e .text w with
      | [c] =>
          match Text.digit? c with
          | some d => return .copy fd d
          | none => if c = '-' then return .close fd else failDescriptor
      | _ => failDescriptor
  | .document fd w => do return .document fd (← Expansion.textIn e .document w)

/-- From this number on descriptors are the shell's own. -/
def firstPrivate : Nat := 10

/-- Keep what a descriptor leads to under a descriptor of the shell's own, and close it; nothing is
kept if it leads nowhere.  It is closed also if it cannot be kept. -/
def keep (fd : Nat) : Run (Option Nat) := do
  match ← ask (.duplicateFrom fd firstPrivate) with
  | .ok n => do
      let _ ← ask (.close fd)
      return some n
  | .error .badDescriptor => return none
  | .error cause => do
      let _ ← ask (.close fd)
      fail (Text.ofNat fd ++ text ": " ++ cause.reason)

/-- Let a descriptor lead where another one leads, and close that one. -/
def move (source fd : Nat) : Run Unit := do
  if source ≠ fd then
    let _ ← ask (.duplicate source fd)
    let _ ← ask (.close source)

/-- Fail because a file cannot be opened. -/
def failOpening {α : Type} (opening : Opening) (path : Octets) (cause : FileError) : Run α :=
  match opening with
  | .input => fail (text "cannot open " ++ path ++ text ": " ++ openReason cause)
  | _ => fail (text "cannot create " ++ path ++ text ": " ++ createReason cause)

/-- How a file is opened. -/
def mode (isProtected : Bool) : Opening → OpenMode
  | .input => .reading
  | .output => if isProtected then .writingNew else .writing
  | .clobbering => .writing
  | .appended => .appending
  | .both => .both

/-- Open a file for a redirection. -/
def openFor (opening : Opening) (path : Octets) : Run Nat := do
  let protects := (← get).has 'C'
  match ← ask (.openFile path (mode protects opening)) with
  | .done (.ok n) => return n
  | .done (.error cause) => failOpening opening path cause
  | .interrupted => failOpening opening path .interrupted

/-- Make a descriptor from which a text is read. -/
def openText (e : Evaluator) (t : Octets) : Run Nat := do
  let (source, sink) ← openPipe
  if t.length ≤ 4096 then
    let _ ← act (Action.write sink t)
  else
    let _ ← fork e do
      let _ ← ask (.close source)
      let _ ← act (Action.write sink t)
      setStatus 0
  let _ ← ask (.close sink)
  return source

/-- Open what a redirection asks for; nothing if it asks for nothing new. -/
def prepared (e : Evaluator) : Ready → Run (Option Nat)
  | .file _ opening path => do return some (← openFor opening path)
  | .document _ t => do return some (← openText e t)
  | .copy .. | .close _ => return none

/-- Carry out a redirection for which something was opened. -/
def carryOut (new? : Option Nat) : Ready → Run Unit
  | .copy fd source => do
      if source ≠ fd then
        match ← ask (.duplicate source fd) with
        | .ok () => return
        | .error cause => fail (Text.ofNat source ++ text ": " ++ cause.reason)
  | .close fd => ask (.close fd)
  | .file fd _ _ | .document fd _ => new?.forM fun n => move n fd

/-- Carry out redirections for good. -/
def carryOutAll (e : Evaluator) (rs : List Ready) : Run Unit :=
  rs.forM fun r => do carryOut (← prepared e r) r

/-- What descriptors led to, those that were changed last in front. -/
abbrev Kept := List (Nat × Option Nat)

/-- Bring back what descriptors led to. -/
def restore (kept : Kept) : Run Unit :=
  kept.forM fun (fd, n?) =>
    match n? with
    | some n => move n fd
    | none => ask (.close fd)

/-- Forget what descriptors led to. -/
def discard (kept : Kept) : Run Unit :=
  kept.forM fun (_, n?) =>
    match n? with
    | some n => ask (.close n)
    | none => pure ()

/-- Carry out redirections up to the first that fails, and keep what the descriptors led to. -/
def carryOutKeeping (e : Evaluator) : Kept → List Ready → Run (Kept × Except Stop Unit)
  | kept, [] => return (kept, .ok ())
  | kept, r :: rs => if r.isIdle then carryOutKeeping e kept rs else do
      match ← caught (prepared e r) with
      | .error stop => return (kept, .error stop)
      | .ok new? =>
          let old ← caught (if new? = some r.descriptor then pure none else keep r.descriptor)
          match old with
          | .error stop => return (kept, .error stop)
          | .ok old? =>
              let kept := (r.descriptor, old?) :: kept
              match ← caught (carryOut new? r) with
              | .ok () => carryOutKeeping e kept rs
              | .error stop => return (kept, .error stop)

end Redirecting

end SkipAudit.Shell
