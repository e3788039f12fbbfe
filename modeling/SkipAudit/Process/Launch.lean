/-
Starting a program from outside and waiting for its end.

The input of the program is empty, and its output and diagnostics are collected.  Who waits for
it also waits until nobody can write to them any more.  A program that cannot be started at all
leaves everything as it was.
-/
import SkipAudit.Process.Schedule

namespace SkipAudit

/-- The programs of a machine. -/
class Programs where
  /-- The process that a program is. -/
  load : Loader

/-- A program that has ended. -/
structure Finished where
  ending : Ending
  diagnostics : List UInt8
deriving DecidableEq, Repr

namespace World

/-- The variable with the directories in which programs are looked for. -/
def pathVariable : Name := text "PATH"

/-- The variable with the directory for scratch files. -/
def scratchVariable : Name := text "TMPDIR"

/-- The variable that says how texts are encoded, and what it says. -/
def encodingVariable : Name := text "LC_CTYPE"
def encoding : Octets := text "C.UTF-8"

/-- The variables that every program finds. -/
def environment (w : World) : List Octets :=
  (w.searchPath.map (pathVariable ++ '=' :: ·)).toList ++
    [scratchVariable ++ '=' :: w.scratchDir.written, encodingVariable ++ '=' :: encoding]

end World

namespace System

/-- Microseconds in a millisecond. -/
def perMillisecond : Nat := 1000

/-- The limits of resources that a program begins with. -/
def usualLimits : List Limit :=
  [⟨'t', none, none⟩, ⟨'f', none, none⟩, ⟨'d', none, none⟩,
   ⟨'s', some (8192 * 1024), none⟩, ⟨'c', some 0, none⟩, ⟨'m', none, none⟩,
   ⟨'l', some (8192 * 1024), some (8192 * 1024)⟩, ⟨'p', none, none⟩,
   ⟨'n', some 1048576, some 1048576⟩, ⟨'v', none, none⟩, ⟨'w', none, none⟩,
   ⟨'r', some 0, some 0⟩]

/-- What is taken from the permissions of new entries unless somebody says otherwise. -/
def usualMask : Nat := 0o022

/-- The process that a program begins as. -/
def firstProcess (s : System) (c : Calling) (p : Proc) : Process :=
  { pid := s.nextPid, parent := starterPid, group := starterPid, calling := c, next := p
    descriptors := [⟨0, s.nextNumber, false⟩, ⟨1, s.nextNumber + 1, false⟩,
      ⟨2, s.nextNumber + 2, false⟩]
    cwd := s.world.fs.cwd, mask := s.world.fs.mask, niceness := 0, limits := usualLimits
    handlings := [], caught := [], opening? := none
    wake := s.clock + (Request.execute [] [] []).cost, isWaiting := false, isStopped := false
    effort := 0, used := 0 }

/-- The device that swallows what is written: where it stands. -/
def nullPlace : List Name := [text "dev", text "null"]

/-- Start a process with nothing to read, and collect what it writes; it has so many
milliseconds, if there is a limit. -/
def startProcess (s : System) (number : Nat) (c : Calling) (p : Proc) (limit : Option Nat) :
    System :=
  let n := s.nextNumber
  { s with
    processes := s.processes ++ [s.firstProcess c p]
    nextPid := s.nextPid + 1
    executions := s.executions ++
      [⟨number, s.nextPid, limit.map (s.clock + · * perMillisecond), n + 1, n + 2, none⟩]
    files := [⟨n, .device .null, nullPlace, 0, .reading⟩,
      ⟨n + 1, .collector (n + 1), [], 0, .appending⟩,
      ⟨n + 2, .collector (n + 2), [], 0, .appending⟩] ++ s.files
    collectors := [.empty (n + 1) false, .empty (n + 2) true] ++ s.collectors
    nextNumber := n + 3 }

/-- Start a program with arguments. -/
def start (load : Loader) (s : System) (number : Nat) (program : Path) (args : List Octets)
    (limit : Option Nat) : Except FileError System :=
  if (program.written :: args).any (·.contains Octets.nul) then .error .nulInArgument
  else do
    let environment := s.world.environment
    let (p, d) ← s.world.findProgram s.isWritten program.written
    let image ← s.world.image s.isWritten p.written d (program.written :: args) environment
    let place := match s.world.fs.locate true (Path.mk image.path) with
      | .ok (.taken place _) => place
      | _ => []
    let c : Calling :=
      ⟨lastPiece p.written, image.arguments, environment, place, image.identity⟩
    return s.startProcess number c (load image.program image.arguments environment) limit

/-- Forget an execution, with what was collected for it. -/
def forget (s : System) (x : Execution) : System :=
  { s with
    executions := s.executions.filter (·.number != x.number)
    collectors := s.collectors.filter fun c => c.number != x.output && c.number != x.diagnostics }

/-- What an execution that is over has come to. -/
def finished? (s : System) (number : Nat) : Option (Finished × System) := do
  let x ← s.executions.find? (·.number == number)
  let ending ← x.ending?
  if s.isOver x = false then none
  else
    let bytes := match s.collectors.find? (·.number == x.diagnostics) with
      | some c => Octets.toBytes c.contents
      | none => []
    some (⟨ending, bytes⟩, s.forget x)

/-- Start a program and wait for its end, without a limit. -/
def launch (load : Loader) (s : System) (program : Path) (args : List Octets) :
    Except FileError (Finished × System) := do
  let number := s.executions.length
  let s := (← s.start load number program args none).proceed load
  return (s.finished? number).getD (⟨.outOfTime, []⟩, s)

end System

end SkipAudit
