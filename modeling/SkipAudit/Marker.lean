/-
The marks that give a test file its structure.

A test file is read as a flat sequence of lines.  Three shapes of line matter: a
*declaration* opens a test block, a *skip line* makes the test skip on the tracked
backend, and a *check for another backend* is a place next to which a skip line may be put.
Every other line is text of the author's that nothing here looks into.
-/
import SkipAudit.Text.Lines
import SkipAudit.Text.Search
import SkipAudit.Text.Blank

namespace SkipAudit

namespace Mark

/-- What a line that opens a test block begins with. -/
def declaration : Text := text "test "

/-- The backend that the skip lines are about. -/
def backend : Text := text "stage2_riscv64"

/-- The statement that skips a test on the tracked backend. -/
def skipStatement : Text :=
  text "if (builtin.zig_backend == .stage2_riscv64) return error.SkipZigTest;"

/-- The indentation of a skip line put in by this tool. -/
def indent : Text := text "    "

/-- The tag at the end of a skip line that was put in during the current run.  It is taken out
of the skip lines that stay. -/
def provisionalTag : Text := text " // inserted by unskip"

/-- What a check for some backend begins with. -/
def checkStart : Text := text "    if (builtin.zig_backend =="

/-- What a check for some backend contains. -/
def checkReturn : Text := text "return error.SkipZigTest"

/-- The name shown for a test without a readable one. -/
def unknownName : Text := text "(unknown)"

/-- What stands before a quoted test name. -/
def nameOpening : Text := text "test \""

/-- What stands after a quoted test name. -/
def nameClosing : Text := text "\" \x7b"

end Mark

namespace Line

/-- The line opens a test block. -/
def isDeclaration (l : Line) : Bool := Text.startsWith Mark.declaration l

/-- The line contains the skip statement, with any indentation and any comment. -/
def isSkip (l : Line) : Bool := Text.occursIn Mark.skipStatement l

/-- The line contains the provisional tag. -/
def isProvisional (l : Line) : Bool := Text.occursIn Mark.provisionalTag l

/-- The line has the shape of a backend check.  A skip line with the usual indentation
has it too, so ask `isSkip` first. -/
def isCheck (l : Line) : Bool :=
  Text.startsWith Mark.checkStart l && Text.occursIn Mark.checkReturn l

/-- The skip line that is put into a block, with `ending` as its terminator. -/
def provisionalSkip (ending : Text) : Line :=
  Mark.indent ++ Mark.skipStatement ++ Mark.provisionalTag ++ ending

/-- The line without provisional tags. -/
def withoutTag (l : Line) : Line := Text.removeAll Mark.provisionalTag l

/-- The name between the quotes of a declaration, as written there. -/
def quotedName? (l : Line) : Option Text := do
  let rest ← Text.dropStart? Mark.nameOpening l.body
  Text.dropEnding? Mark.nameClosing rest

end Line

end SkipAudit
