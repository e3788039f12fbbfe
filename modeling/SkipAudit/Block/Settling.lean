/-
The lines to write back once the tests have run.

* The skip line of a cleared unit is dropped.
* When nothing of the block is left above it but the declaration, one blank line right
  after it goes too: it is the separator that comes with a provisional skip line.
* A skip line that stays loses its provisional tag.

All else is copied.
-/
import SkipAudit.Block.TestUnit

namespace SkipAudit

/-- Where the settling of a file stands. -/
structure SettleState where
  /-- The unit of the current block is cleared. -/
  cleared : Bool
  /-- Nothing of the current block has been written but its declaration. -/
  bare : Bool
  /-- A blank line that comes next is dropped. -/
  dropBlank : Bool
deriving DecidableEq, Repr

/-- Above the first declaration. -/
def SettleState.outside : SettleState := ⟨false, false, false⟩

/-- The unit declared at index `i` is there and cleared. -/
def clearedAt (units : List TestUnit) (i : Nat) : Bool :=
  match units.find? (·.declIndex == i) with
  | some u => u.isCleared
  | none => false

/-- Settle the lines from index `i` on. -/
def settleFrom (units : List TestUnit) : Nat → SettleState → List Line → List Line
  | _, _, [] => []
  | i, s, l :: ls =>
      if l.isDeclaration then
        l :: settleFrom units (i + 1) ⟨clearedAt units i, true, false⟩ ls
      else if l.isSkip then
        if s.cleared then settleFrom units (i + 1) { s with dropBlank := s.bare } ls
        else
          l.withoutTag ::
            settleFrom units (i + 1) { s with bare := false, dropBlank := false } ls
      else if s.dropBlank && l.isBlank then
        settleFrom units (i + 1) { s with dropBlank := false } ls
      else l :: settleFrom units (i + 1) { s with bare := false, dropBlank := false } ls

/-- The lines to write back for a file with lines `ls`, given how its units ended.  A
block without a unit keeps its skip lines. -/
def settle (units : List TestUnit) (ls : List Line) : List Line :=
  settleFrom units 0 .outside ls

end SkipAudit
