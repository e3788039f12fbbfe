/-
A whole run over a corpus.

All selected tests are executed, their results are put into the corpus as they arrive, and
every file is written back, whether its tests ran or not.  A file that cannot be written is
counted and keeps nobody else from being written.
-/
import SkipAudit.Run.Pool
import SkipAudit.Run.Tally

namespace SkipAudit

/-- A test that has been recorded: the how-manieth of how many, its name and how it ended. -/
structure Completion where
  index : Nat
  total : Nat
  name : Text
  failure? : Option Failure
deriving DecidableEq, Repr

/-- What is known after all results have been recorded. -/
structure Recorded where
  /-- How many results were expected at the start. -/
  total : Nat
  completions : List Completion
  summary : Summary
  corpus : Corpus
deriving DecidableEq, Repr

/-- Record results one after the other; those that belong nowhere are passed over. -/
def recordAll (total : Nat) : Tally → List JobResult → Tally × List Completion
  | t, [] => (t, [])
  | t, r :: rs =>
      match t.record r with
      | .error _ => recordAll total t rs
      | .ok t' =>
          let (last, cs) := recordAll total t' rs
          (last, ⟨t'.completed, total, r.name, r.outcome.failure?⟩ :: cs)

/-- Record all results of a run, in the order of their arrival. -/
def reconcile (c : Corpus) (arrivals : List JobResult) : Recorded :=
  let start := Tally.start c
  let (last, completions) := recordAll start.expected start arrivals
  let (corpus, summary) := last.finish
  ⟨start.expected, completions, summary, corpus⟩

/-! ## Writing back -/

/-- Where files are written: `write` may refuse, and may have spoilt the file when it does;
`format` tidies a file just written and cannot fail. -/
structure Disk (ω : Type) where
  write : Path → Text → ω → Except FileError Unit × ω
  format : Path → ω → ω

variable {ω : Type}

/-- The disk of a world, while jobs are answered in it. -/
def Disk.answering (d : Disk ω) : Disk (Answered ω) where
  write p t w :=
    let (answer, world) := d.write p t w.world
    (answer, { w with world })
  format p w := { w with world := d.format p w.world }

/-- Write a file back, and have it formatted if it was written. -/
def writeFileBack (disk : Disk ω) (f : SourceFile) (w : ω) : Except CorpusError Unit × ω :=
  match disk.write f.path f.settled w with
  | (.ok (), w') => (.ok (), disk.format f.path w')
  | (.error e, w') => (.error (.write f.path e), w')

/-- The world after a file has been written back, or why it could not be. -/
def writeBack (disk : Disk ω) (f : SourceFile) (w : ω) : Except CorpusError ω :=
  match writeFileBack disk f w with
  | (.ok (), w') => .ok w'
  | (.error e, _) => .error e

/-- Write files back one after the other: the world afterwards, and the number of those
that could not be written. -/
def writeAllBack (disk : Disk ω) : List SourceFile → ω → ω × Nat
  | [], w => (w, 0)
  | f :: fs, w =>
      match writeFileBack disk f w with
      | (.ok (), w') => writeAllBack disk fs w'
      | (.error _, w') =>
          let (last, failures) := writeAllBack disk fs w'
          (last, failures + 1)

/-- The result of a run. -/
structure Updated (ω : Type) where
  recorded : Recorded
  writeFailures : Nat
  world : ω

/-- Record results and write every file back. -/
def updateWith (disk : Disk ω) (c : Corpus) (arrivals : List JobResult) (w : ω) : Updated ω :=
  let recorded := reconcile c arrivals
  let (last, failures) := writeAllBack disk recorded.corpus.files w
  ⟨recorded, failures, last⟩

/-- Run every selected test of a corpus with so many workers, and write the files back. -/
def updateCorpus (exec : Executor ω) (workers : Nat) (disk : Disk ω) (c : Corpus) (w : ω) :
    Updated ω :=
  let (arrivals, w') := Pool.run exec workers c.jobs w
  updateWith disk c arrivals w'

end SkipAudit
