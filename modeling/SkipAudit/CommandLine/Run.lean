/-
The command line from the arguments to the exit status.

The path is looked at first, then the compiler unless only a report is wanted, and then the
files are loaded.  Files that cannot be loaded or written make the exit status a failure at the
end and stop nothing.

Whether there is such a compiler is asked once, before any test is run.  A name of one component is
looked for in the directories of the search path and then in the current directory; anything longer
is a path.  Starting the compiler looks for it by the rule of the system instead,
`World.findProgram`.
-/
import SkipAudit.CommandLine.Help
import SkipAudit.Compiler.Execution
import SkipAudit.Run.Report

namespace SkipAudit.World

/-- The compiler is an existing file. -/
def hasCompiler (w : World) (compiler : Path) : Bool :=
  if 1 < compiler.components.length || compiler.isAbsolute then w.fs.isFile compiler
  else
    let dirs := (w.searchPath.map Path.ofSearchPath).getD []
    dirs.any (fun dir => w.fs.isFile (dir.join compiler)) || w.fs.isFile compiler

end SkipAudit.World

namespace SkipAudit.CommandLine

/-- Why nothing was done. -/
inductive Refusal where
  | noSuchPath (p : Path)
  | noSuchCompiler (c : Path)
  | corpus (e : CorpusError)
deriving DecidableEq, Repr

/-- The wording of a refusal. -/
def Refusal.message : Refusal → Text
  | .noSuchPath p => text "Error: no such file or directory: " ++ p.shown
  | .noSuchCompiler c => text "Error: compiler not found: " ++ c.shown
  | .corpus e => text "Error: " ++ e.message

/-- The exit status after a refusal, or after a file could not be loaded or written. -/
def failureStatus : Nat := 1

/-- The exit status after arguments that make no request. -/
def usageStatus : Nat := 2

/-- What a command leaves behind. -/
structure Completed where
  status : Nat
  output : Text
  complaint : Text
  system : System

/-- Find the test files that a path stands for, and load them. -/
def loadCorpus (fs : FileSystem) (p : Path) (extension : Text) (recheck : Bool) :
    Except Refusal (Corpus × List CorpusError) :=
  match discover fs p extension with
  | .ok paths => .ok (Corpus.load fs recheck paths)
  | .error e => .error (.corpus e)

/-- The exit status, by the number of files that could not be loaded or written. -/
def statusFor (faults : Nat) : Nat := if faults = 0 then 0 else failureStatus

/-- Report the outstanding tests. -/
def reportOutstanding (r : Request) (s : System) : Except Refusal Completed := do
  let (corpus, faults) ← loadCorpus s.world.fs r.path r.extension r.recheck
  let output := Report.outstandingText corpus.outstanding ++ text "\n"
  return ⟨statusFor faults.length, output, [], s⟩

/-- The line of a test that has been recorded. -/
def completionLine (c : Completion) : Text :=
  Report.testLine c.index c.total c.name c.failure? ++ text "\n"

/-- Run the tests and write the files back; `machineWorkers` may run at once unless the
request says how many. -/
def updateTests [Programs] (machineWorkers : Nat) (r : Request) (s : System) :
    Except Refusal Completed := do
  let v := r.invocation
  let (corpus, faults) ← loadCorpus s.world.fs r.path r.extension r.recheck
  let u := updateCorpus v.executor (v.workers.getD machineWorkers)
    (Laboratory.disk (some v.compiler)) corpus (.ofSystem s)
  let output := u.recorded.completions.flatMap completionLine ++
    Report.summaryLine u.recorded.summary ++ text "\n"
  return ⟨statusFor (faults.length + u.writeFailures), output, [], u.world.system⟩

/-- Do what a request asks for. -/
def fulfil [Programs] (machineWorkers : Nat) (r : Request) (s : System) :
    Except Refusal Completed :=
  if !s.world.fs.pathExists r.path then .error (.noSuchPath r.path)
  else if r.todo then reportOutstanding r s
  else if !s.world.hasCompiler r.compiler then .error (.noSuchCompiler r.compiler)
  else updateTests machineWorkers r s

/-- Run the command line. -/
def run [Programs] (machineWorkers : Nat) (args : List Text) (s : System) : Completed :=
  match read args with
  | .error .helpWanted => ⟨0, help, [], s⟩
  | .error .versionWanted => ⟨0, versionLine, [], s⟩
  | .error e => ⟨usageStatus, [], e.message ++ text "\n\n" ++ usage, s⟩
  | .ok r =>
      match fulfil machineWorkers r s with
      | .ok done => done
      | .error refusal => ⟨failureStatus, [], refusal.message ++ text "\n", s⟩

end SkipAudit.CommandLine
