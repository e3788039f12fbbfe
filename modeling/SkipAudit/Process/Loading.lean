/-
Which process a machine program is.

This is one machine among others: the shell and the programs that scripts call are carried out as
processes of their own, so that a script can be the compiler.  Nothing that is proved looks at what
a program does.
-/
import SkipAudit.Process.Launch
import SkipAudit.Shell.Invocation
import SkipAudit.Utility.Table

namespace SkipAudit

/-- The name of the shell. -/
def shellName : Name := text "dash"

/-- The process that a machine program is, with its arguments and its variables. -/
def load : Loader := fun program args environment =>
  if program = shellName then Shell.Invocation.program args environment
  else match Utility.ofName? program with
    | some run => (run ⟨args.headD program, args.drop 1, environment, 1, false⟩).toProc
    | none => .exit 127

instance : Programs := ⟨load⟩

end SkipAudit
