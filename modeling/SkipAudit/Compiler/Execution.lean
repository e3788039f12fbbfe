/-
Running the compiler, for a test and for a file that was written.

A test is run on a scratch file: the text of its file without its skip line, under a name that
ends like the file's.  The scratch file is removed afterwards, whatever happened.

What a compiler does when it is started is up to the machine (`Programs`).
-/
import SkipAudit.Compiler.Invocation
import SkipAudit.Process.Launch
import SkipAudit.Run.Update

namespace SkipAudit

/-- Why a test could not be run. -/
inductive HarnessError where
  | scratch (cause : FileError)
  | spawn (compiler : Path) (cause : FileError)
deriving DecidableEq, Repr

/-- The wording of a harness error. -/
def HarnessError.message : HarnessError → Text
  | .scratch e => text "failed to write scratch file: " ++ e.message
  | .spawn c e => text "failed to spawn \x60" ++ c.shown ++ text "\x60: " ++ e.message

namespace World

/-! ## Scratch files -/

/-- The length of the part of a scratch file's name that makes it unique. -/
def tagLength : Nat := 6

/-- A number as such a part. -/
def scratchTag (n : Nat) : Text :=
  let ds := Text.ofNat n
  List.replicate (tagLength - ds.length) '0' ++ ds

/-- A scratch file, by its number, with a name that ends in `ending`. -/
def scratchPath (w : World) (ending : Text) (n : Nat) : Path :=
  w.scratchDir.join (.ofText (text "unskip-" ++ scratchTag n ++ ending))

/-- Nobody but the owner has anything to do with a scratch file. -/
def scratchMode : Nat := 0o600

/-- Create a scratch file with some text, under the first number that is free; there are at
most as many numbers to try as files there, and one more. -/
def createScratch (w : World) (ending : Text) (t : Text) :
    Except FileError (Path × World) :=
  let numbers := List.range (w.leftover + 1)
  let n := (numbers.find? fun n => !w.fs.pathExists (w.scratchPath ending n)).getD numbers.length
  let p := w.scratchPath ending n
  (w.fs.writeWith p scratchMode fun _ => Utf8.encode t).map fun fs => (p, { w with fs })

/-- Remove a scratch file, if it is still a file. -/
def discardScratch (w : World) (p : Path) : World :=
  match w.fs.locate false p with
  | .ok (.taken _ (.dir ..)) => w
  | _ => { w with fs := (w.fs.remove p).toOption.getD w.fs }

end World

namespace System

/-- A file is open to write to from now on, for whoever starts programs. -/
def keepWritten (s : System) (identity : Nat) : System :=
  { s with written := identity :: s.written }

/-- The file is not open any more. -/
def releaseWritten (s : System) (identity : Nat) : System :=
  { s with written := s.written.erase identity }

/-- Remove a scratch file from a system. -/
def discard (s : System) (p : Path) : System :=
  s.withFiles (s.worldNow.discardScratch p).fs

end System

/-! ## Tests -/

/-- The outcome that the end of a compiler means: success, or a failure that its code and
its diagnostics tell apart. -/
def Finished.outcome (f : Finished) : Outcome :=
  match f.ending with
  | .outOfTime => .timedOut
  | .exited 0 => .passed
  | e =>
      let diagnostics := Utf8.decodeLossy f.diagnostics
      .failed e.code diagnostics (Failure.classify diagnostics e.code)

/-- A test on its way. -/
inductive Trial where
  /-- The compiler runs on a scratch file, which is kept open to write to; `identity` is its
  number. -/
  | running (scratch : Path) (identity : Nat)
  | refused (cause : HarnessError)
deriving DecidableEq, Repr

/-- A system with the tests that are under way in it, each under a number. -/
structure Laboratory where
  system : System
  trials : List (Nat × Trial)

namespace Laboratory

/-- A laboratory in which no test is under way. -/
def ofSystem (s : System) : Laboratory := ⟨s, []⟩

/-- The laboratory with one more test. -/
def withTrial (l : Laboratory) (number : Nat) (t : Trial) : Laboratory :=
  { l with trials := (number, t) :: l.trials }

/-- Begin a test. -/
def start [Programs] (v : Invocation) (number : Nat) (j : Job) (l : Laboratory) : Laboratory :=
  let before := l.system.worldNow
  match before.createScratch j.fileName j.isolated with
  | .error e => l.withTrial number (.refused (.scratch e))
  | .ok (p, w) =>
      let identity := before.fs.next
      let s := (l.system.withFiles w.fs).keepWritten identity
      match s.start Programs.load number v.compiler (v.testArguments p) (some v.timeout) with
      | .error e =>
          { l with system := (s.releaseWritten identity).discard p }.withTrial number
            (.refused (.spawn v.compiler e))
      | .ok s => { l with system := s }.withTrial number (.running p identity)

/-- The laboratory without a test. -/
def withoutTrial (l : Laboratory) (number : Nat) : Laboratory :=
  { l with trials := l.trials.filter (·.1 != number) }

/-- What a test has come to, if it is over: its outcome, or why it could not be run. -/
def result? (number : Nat) (l : Laboratory) :
    Option (Except HarnessError Outcome × Laboratory) := do
  match ← l.trials.lookup number with
  | .refused e => return (.error e, l.withoutTrial number)
  | .running p identity =>
      let (f, s) ← l.system.finished? number
      let s := (s.releaseWritten identity).discard p
      return (.ok f.outcome, { l with system := s }.withoutTrial number)

end Laboratory

namespace Invocation

/-- Run one test: the outcome, or why it could not be run, and the system afterwards. -/
def execute [Programs] (v : Invocation) (j : Job) (s : System) :
    Except HarnessError Outcome × System :=
  let l := (Laboratory.ofSystem s).start v 0 j
  let l := { l with system := l.system.proceed Programs.load }
  match l.result? 0 with
  | some (found, l) => (found, l.system)
  | none => (.ok .timedOut, l.system)

/-- The outcome of a test that could not be run is a failure of its own. -/
def outcomeOf : Except HarnessError Outcome → Outcome
  | .ok o => o
  | .error e => .harnessFailed e.message

/-- The executor that runs the compiler. -/
def executor [Programs] (v : Invocation) : Executor Laboratory where
  start := Laboratory.start v
  result? number l := (l.result? number).map fun (found, l) => (some (outcomeOf found), l)
  proceed l := { l with system := l.system.proceed Programs.load }

end Invocation

/-! ## Files -/

namespace System

/-- Write a file from outside. -/
def writeText (s : System) (p : Path) (t : Text) : Except FileError System :=
  (s.filesNow.writeText p t).map s.withFiles

/-- Have a compiler format a file; whether it succeeds makes no difference. -/
def formatFile [Programs] (s : System) (compiler file : Path) : System :=
  match s.launch Programs.load compiler (Invocation.formatArguments file) with
  | .ok (_, s) => s
  | .error _ => s

end System

namespace Laboratory

/-- The disk of a laboratory, with a compiler that formats what is written, or without one. -/
def disk [Programs] (formatter : Option Path) : Disk Laboratory where
  write p t l :=
    match l.system.writeText p t with
    | .ok s => (.ok (), { l with system := s })
    | .error e => (.error e, l)
  format p l :=
    match formatter with
    | some compiler => { l with system := l.system.formatFile compiler p }
    | none => l

end Laboratory

end SkipAudit
