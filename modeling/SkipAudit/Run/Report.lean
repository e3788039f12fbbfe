/-
What a run tells its user: a line for every test, a summary, and the report of what is
outstanding.
-/
import SkipAudit.Number.Binary64
import SkipAudit.Number.Natural
import SkipAudit.Run.Tally

namespace SkipAudit

namespace Report

/-- Switch a terminal to green. -/
def green : Text := text "\x1b[32m"

/-- Switch a terminal to red. -/
def red : Text := text "\x1b[31m"

/-- Switch a terminal back. -/
def reset : Text := text "\x1b[0m"

/-- How a test ended: its verdict in colour, its name, and its failure in parentheses. -/
def verdict (name : Text) : Option Failure → Text
  | none => green ++ text "PASS" ++ reset ++ text " " ++ name
  | some f => red ++ text "FAIL" ++ reset ++ text " " ++ name ++ text " (" ++ f.label ++ text ")"

/-- The line of the test that ended as number `index` of `total`. -/
def testLine (index total : Nat) (name : Text) (failure? : Option Failure) : Text :=
  text "[" ++ Text.ofNat index ++ text "/" ++ Text.ofNat total ++ text "] " ++
    verdict name failure?

/-- The percentage of passed tests: two roundings, of the product and of the quotient.
None when no test ran. -/
def passRate? (s : Summary) : Option Binary64 :=
  if s.total = 0 then none
  else some (((Binary64.ofNat s.passed).mul (Binary64.ofNat 100)).div (Binary64.ofNat s.total))

/-- The decimal places of a percentage. -/
def ratePlaces : Nat := 2

/-- The summary line. -/
def summaryLine (s : Summary) : Text :=
  match passRate? s with
  | none => text "no tests to execute"
  | some rate =>
      Text.ofNat s.passed ++ text " passed, " ++ Text.ofNat s.failed ++ text " failed - " ++
        rate.toFixed ratePlaces ++ text "% passing"

/-- The report of outstanding tests: a line for every file, and the total. -/
def outstandingText (counts : List (Path × Nat)) : Text :=
  counts.flatMap (fun (p, n) => Text.ofNat n ++ text " " ++ p.shown ++ text "\n") ++
    text "total: " ++ Text.ofNat (Natural.total (counts.map (·.2)))

end Report

end SkipAudit
