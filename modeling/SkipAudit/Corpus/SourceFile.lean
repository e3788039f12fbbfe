/-
Source files in memory.

A file is read once: its lines are marked and its test units found.  Results are set on the
units, and at the end the text to write back follows from both.
-/
import SkipAudit.Block.Marking
import SkipAudit.Block.Settling
import SkipAudit.Corpus.Error
import SkipAudit.FileSystem.Basic

namespace SkipAudit

/-- A test file: its marked lines, and its units in the order of their declarations. -/
structure SourceFile where
  path : Path
  lines : List Line
  units : List TestUnit
deriving DecidableEq, Repr

/-- Set the failures of units, from the first one on; there may be more of either. -/
def TestUnit.assign : List (Option Failure) → List TestUnit → List TestUnit
  | f :: fs, u :: us => { u with failure := f } :: assign fs us
  | _, us => us

namespace SourceFile

/-- The source file that a text makes. -/
def ofText (path : Path) (t : Text) : Except CorpusError SourceFile :=
  let lines := markBlocks (splitLines t)
  match unitsOf lines with
  | .ok units => .ok ⟨path, lines, units⟩
  | .error e => .error (.structural path e)

/-- Read a source file. -/
def load (fs : FileSystem) (path : Path) : Except CorpusError SourceFile :=
  match fs.readText path with
  | .ok t => ofText path t
  | .error e => .error (.read path e)

/-- Select every unit, those that pass today as well. -/
def selectAll (f : SourceFile) : SourceFile :=
  { f with units := f.units.map ({ · with selected := true }) }

/-- How many units are to be run. -/
def selectedCount (f : SourceFile) : Nat := f.units.countP (·.selected)

/-- The text to write back, as the units stand. -/
def settled (f : SourceFile) : Text := (settle f.units f.lines).flatten

/-- Change the first unit that is declared at index `i`. -/
def modifyUnit (i : Nat) (g : TestUnit → TestUnit) (f : SourceFile) : SourceFile :=
  { f with units := go f.units }
where
  /-- The units with that one changed. -/
  go : List TestUnit → List TestUnit
    | [] => []
    | u :: us => if u.declIndex = i then g u :: us else u :: go us

/-- The file has a unit that is declared at index `i`. -/
def hasUnit (f : SourceFile) (i : Nat) : Bool := f.units.any (·.declIndex == i)

end SourceFile

end SkipAudit
