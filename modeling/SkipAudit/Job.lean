/-
Work to be done, and how it ends.

A job carries all that a worker needs: whose test it is, the lines of the file and the skip
line to leave out.  Its result names the test again, so that results can come in any order.
-/
import SkipAudit.Corpus.SourceFile

namespace SkipAudit

/-- Which test: the file, and the index of the declaration. -/
structure UnitKey where
  path : Path
  declIndex : Nat
deriving DecidableEq, Repr

/-- Two keys name the same test, the path being spelled in any way. -/
def UnitKey.same (a b : UnitKey) : Bool := a.path.same b.path && a.declIndex == b.declIndex

/-- One test to run. -/
structure Job where
  key : UnitKey
  name : Text
  lines : List Line
  skipIndex : Nat
deriving DecidableEq, Repr

namespace Job

/-- The text of the file without the skip line of this test. -/
def isolated (j : Job) : Text := (j.lines.eraseIdx j.skipIndex).flatten

/-- The name of the file, as people read it. -/
def fileName (j : Job) : Text := Octets.toText (j.key.path.fileName?.getD [])

end Job

/-- How the run of one test ended. -/
inductive Outcome where
  | passed
  | failed (code : Int) (diagnostics : Text) (failure : Failure)
  | timedOut
  /-- The test could not be run. -/
  | harnessFailed (message : Text)
deriving DecidableEq, Repr

/-- The failure that an outcome means for its test. -/
def Outcome.failure? : Outcome → Option Failure
  | .passed => none
  | .failed _ _ f => some f
  | .timedOut => some .timedOut
  | .harnessFailed _ => some .harnessError

/-- The result of a job. -/
structure JobResult where
  key : UnitKey
  name : Text
  outcome : Outcome
deriving DecidableEq, Repr

/-- The result of a job that ended in some way. -/
def Job.result (j : Job) (o : Outcome) : JobResult := ⟨j.key, j.name, o⟩

/-- The key of a unit of a file. -/
def SourceFile.keyOf (f : SourceFile) (u : TestUnit) : UnitKey := ⟨f.path, u.declIndex⟩

/-- One job for each selected unit. -/
def SourceFile.jobs (f : SourceFile) : List Job :=
  (f.units.filter (·.selected)).map fun u => ⟨f.keyOf u, u.name, f.lines, u.skipIndex⟩

end SkipAudit
