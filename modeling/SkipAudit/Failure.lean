/-
Why a test did not pass.

A failing compiler writes free text.  Known phrases of it are listed in `signatures`, from
the most to the least telling; the first one that occurs anywhere decides, and the
exit status when none does.  So every failure has exactly one classification.
-/
import SkipAudit.Text.Search

namespace SkipAudit

/-- The classification of a test that did not pass. -/
inductive Failure where
  /-- The test reached code it calls unreachable. -/
  | unreachable
  /-- The test indexed out of bounds. -/
  | indexOutOfBounds
  /-- Any other trap. -/
  | panic
  /-- A memory access violation. -/
  | segfault
  /-- The test framework reports a failed test. -/
  | testFailure
  /-- The test uses a structural equality that the backend cannot compile. -/
  | incompatibleEquality
  /-- Nothing known in the text: the exit status. -/
  | returnCode (code : Int)
  /-- The compiler did not end in time. -/
  | timedOut
  /-- The test could not be run at all. -/
  | harnessError
deriving DecidableEq, Repr

namespace Failure

/-- The wording of a failure in reports. -/
def label : Failure → Text
  | .unreachable => text "unreachable"
  | .indexOutOfBounds => text "index out of bounds"
  | .panic => text "panic"
  | .segfault => text "segfault"
  | .testFailure => text "test failure"
  | .incompatibleEquality => text "uses incompatible equality assertion"
  | .returnCode code => text "return code " ++ Text.ofInt code
  | .timedOut => text "timed out"
  | .harnessError => text "harness error"

/-- A phrase of diagnostic text and what it tells. -/
structure Signature where
  phrase : Text
  failure : Failure

/-- The known phrases, the deciding one first: `panic: ` stands below the particular
traps that begin with it. -/
def signatures : List Signature :=
  [⟨text "panic: reached unreachable code", .unreachable⟩,
   ⟨text "panic: index out of bounds", .indexOutOfBounds⟩,
   ⟨text "panic: ", .panic⟩,
   ⟨text "Segmentation fault", .segfault⟩,
   ⟨text "... FAIL (", .testFailure⟩,
   ⟨text "classifySystem Struct", .incompatibleEquality⟩]

/-- The classification of a run that ended with `code` and wrote `diagnostics`. -/
def classify (diagnostics : Text) (code : Int) : Failure :=
  match signatures.find? fun s => Text.occursIn s.phrase diagnostics with
  | some s => s.failure
  | none => .returnCode code

end Failure

end SkipAudit
