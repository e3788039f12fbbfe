/-
All builtins by their names.
-/
import SkipAudit.Shell.Builtin.Control
import SkipAudit.Shell.Builtin.Jobs
import SkipAudit.Shell.Builtin.Names
import SkipAudit.Shell.Builtin.Output
import SkipAudit.Shell.Builtin.Place
import SkipAudit.Shell.Builtin.Variables

namespace SkipAudit.Shell.Builtin

/-- Become another program, or do nothing but the redirections. -/
def exec : Builtin := fun _ _ _ args => do
  if args = [] then return 0 else Programs.become (← Programs.searchPath) args

/-- All builtins. -/
def table : List (Octets × Builtin) :=
  Text.keyed [
   (".", carryOutFile), (":", nothing 0), ("break", leaveLoops), ("continue", nextRound),
   ("eval", eval), ("exec", exec), ("exit", exit), ("export", exportVariables),
   ("local", localVariables), ("readonly", readonly), ("return", comeBack), ("set", set),
   ("shift", shift), ("times", times), ("trap", trap), ("unset", unset), ("[", test),
   ("alias", setAlias), ("bg", moveJob), ("cd", changeDirectory), ("chdir", changeDirectory),
   ("command", command), ("echo", echo), ("false", nothing 1), ("fg", moveJob),
   ("getopts", getopts), ("hash", hash), ("jobs", jobs), ("kill", kill), ("printf", printf),
   ("pwd", printDirectory), ("read", read), ("test", test), ("true", nothing 0),
   ("type", type), ("ulimit", ulimit), ("umask", umask), ("unalias", removeAlias),
   ("wait", wait)]

/-- The builtin with a name. -/
def ofName? (name : Octets) : Option Builtin := table.lookup name

end SkipAudit.Shell.Builtin
