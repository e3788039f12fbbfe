/-
The tests of a file.

Each declaration of a marked file gives one test unit, found together with the skip line
of its block.  A skip line that was in the file already means that the test is outstanding:
it is selected to run.  A provisional one means that the test passes today.
-/
import SkipAudit.Marker
import SkipAudit.Failure

namespace SkipAudit

/-- One test block of a source file. -/
structure TestUnit where
  /-- The index of the declaration among the lines of the file. -/
  declIndex : Nat
  /-- The index of the skip line of the block. -/
  skipIndex : Nat
  /-- The quoted name, or `(unknown)`. -/
  name : Text
  /-- The skip line was put in during this run. -/
  provisional : Bool
  /-- The test is to be run. -/
  selected : Bool
  /-- Why the test failed; nothing for a test that passed or did not run. -/
  failure : Option Failure
deriving DecidableEq, Repr

/-- The test passed or did not run: its skip line may go. -/
def TestUnit.isCleared (u : TestUnit) : Bool := u.failure.isNone

/-- A defect of the block structure of a file. -/
inductive StructureError where
  /-- The block of the declaration at this index has no skip line. -/
  | missingSkipLine (declIndex : Nat)
deriving DecidableEq, Repr

/-- The wording of a structure error; lines are counted from one. -/
def StructureError.message : StructureError → Text
  | .missingSkipLine i =>
      text "test declared on line " ++ Text.ofNat (i + 1) ++
        text " has no skip line before the next test"

/-- A block whose lines are being read: the declaration and the last skip line, each with
its index. -/
structure PendingUnit where
  declIndex : Nat
  declLine : Line
  skip : Option (Nat × Line)

namespace PendingUnit

/-- The name shown for the test that a line declares. -/
def nameOf (l : Line) : Text := l.quotedName?.getD Mark.unknownName

/-- The unit of a block that has been read to its end. -/
def close (b : PendingUnit) : Except StructureError TestUnit :=
  match b.skip with
  | none => .error (.missingSkipLine b.declIndex)
  | some (i, l) =>
      .ok { declIndex := b.declIndex, skipIndex := i, name := nameOf b.declLine,
            provisional := l.isProvisional, selected := !l.isProvisional, failure := none }

end PendingUnit

/-- Read the lines from index `i` on, a block being open or not. -/
def unitsFrom : Nat → Option PendingUnit → List Line → Except StructureError (List TestUnit)
  | _, none, [] => .ok []
  | _, some b, [] => return [← b.close]
  | i, open?, l :: ls =>
      if l.isDeclaration then
        match open? with
        | none => unitsFrom (i + 1) (some ⟨i, l, none⟩) ls
        | some b => do
            let u ← b.close
            let us ← unitsFrom (i + 1) (some ⟨i, l, none⟩) ls
            return u :: us
      else if l.isSkip then unitsFrom (i + 1) (open?.map ({ · with skip := some (i, l) })) ls
      else unitsFrom (i + 1) open? ls

/-- The test units of a file, one for each declaration and in that order. -/
def unitsOf (ls : List Line) : Except StructureError (List TestUnit) := unitsFrom 0 none ls

end SkipAudit
