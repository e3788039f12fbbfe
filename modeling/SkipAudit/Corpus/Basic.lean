/-
The corpus: the source files of a run.

Files stand in the order in which their paths were first added.  An index beside them says
where the file of a path stands; adding a file under a path that is there already, in any
spelling, replaces the file in its place and leaves the index as it is.
-/
import SkipAudit.Corpus.Discovery
import SkipAudit.Job
import SkipAudit.Number.Natural

namespace SkipAudit

/-- Source files, and the index from paths to their positions. -/
structure Corpus where
  files : List SourceFile
  index : List (Path × Nat)
deriving DecidableEq, Repr

namespace Corpus

/-- The corpus without files. -/
def empty : Corpus := ⟨[], []⟩

/-- The position of the file with a path, by the index. -/
def position? (c : Corpus) (p : Path) : Option Nat :=
  (c.index.find? (·.1.same p)).map (·.2)

/-- Add a file, or replace the one with its path. -/
def push (c : Corpus) (f : SourceFile) : Corpus :=
  match c.position? f.path with
  | some i => { c with files := c.files.set i f }
  | none => ⟨c.files ++ [f], c.index ++ [(f.path, c.files.length)]⟩

/-- The file with a path. -/
def file? (c : Corpus) (p : Path) : Option SourceFile :=
  (c.position? p).bind (c.files[·]?)

/-- Change the file with a path. -/
def modifyFile (c : Corpus) (p : Path) (g : SourceFile → SourceFile) : Corpus :=
  match c.position? p with
  | some i => { c with files := c.files.modify i g }
  | none => c

/-- Read the files with some paths.  A file that cannot be read or is malformed is left
out, and the reason is told; all others are in the corpus. -/
def load (fs : FileSystem) (recheck : Bool) (paths : List Path) : Corpus × List CorpusError :=
  paths.foldl (fun (c, errors) p =>
    match SourceFile.load fs p with
    | .ok f => (c.push (if recheck then f.selectAll else f), errors)
    | .error e => (c, errors ++ [e])) (.empty, [])

/-- The jobs of all selected units, file by file. -/
def jobs (c : Corpus) : List Job := c.files.flatMap SourceFile.jobs

/-- How many units are to be run. -/
def selectedCount (c : Corpus) : Nat :=
  Natural.total (c.files.map SourceFile.selectedCount)

/-- Entries of the report of outstanding tests stand by count, then by path. -/
def reportLe (a b : Path × Nat) : Bool := a.2 < b.2 || a.2 == b.2 && a.1.le b.1

/-- The files with tests to run, each with their number, the fewest first. -/
def outstanding (c : Corpus) : List (Path × Nat) :=
  ((c.files.map fun f => (f.path, f.selectedCount)).filter (0 < ·.2)).mergeSort reportLe

end Corpus

end SkipAudit
