/-
Programs, as a shell finds them and becomes them.

A name with a slash is a path; any other is looked for in the directories of the search path.
A file that the system cannot execute is taken for a script of the shell, unless its first line
shows that it is none.
-/
import SkipAudit.Shell.Run

namespace SkipAudit.Shell.Programs

open Run

/-- The value of the variable that lists the directories with programs. -/
def searchPath : Run Octets := do return ((← get).get? Session.pathName).getD []

/-- The paths that a name may stand for. -/
def candidates (path name : Octets) : List Octets :=
  if name.contains '/' then [name]
  else (Text.cutAt ':' path).map fun d => if d = [] then name else d ++ '/' :: name

/-- The first of some paths that leads to a program; `cause` is why the ones before did not. -/
def firstProgram (fs : FileSystem) (cause : FileError) :
    List Octets → Except FileError Octets
  | [] => .error cause
  | p :: ps =>
      match fs.entry (Path.mk p) with
      | .ok (.file d) => if d.isExecutable then .ok p else firstProgram fs .permission ps
      | .ok _ => firstProgram fs .permission ps
      | .error .notFound | .error .notDirectory => firstProgram fs cause ps
      | .error e => firstProgram fs e ps

/-- Look for a program by a name without a slash, and remember it if it was looked for where
programs are looked for. -/
def find (path name : Octets) : Run (Except FileError Octets) := do
  let found := firstProgram (← ask .look) .notFound (candidates path name)
  match found with
  | .ok _ =>
      if path = (← searchPath) then
        modify fun s =>
          if s.programs.contains name then s else { s with programs := s.programs ++ [name] }
  | .error _ => pure ()
  return found

/-- How much of a file is looked at to see whether it is a script. -/
def sampleSize : Nat := 128

/-- A character that no first line of a script has. -/
def isForeign (c : Char) : Bool :=
  let n := c.toNat
  n < 9 || (15 < n && n < 32 && n != 27) || n = 127

/-- A file may be a script of the shell. -/
def mayBeScript (fs : FileSystem) (p : Octets) : Bool :=
  match fs.readBytes (Path.mk p) with
  | .ok bytes => !((Octets.ofBytes (bytes.take sampleSize)).takeWhile (· != '\n')).any isForeign
  | .error _ => false

/-- The program that carries out scripts without a line that names one. -/
def shellPath : Octets := text "/bin/sh"

/-- Become the program at a path, or tell why not. -/
def becomeAt (p : Octets) (args : List Octets) : Run FileError := do
  let environment := (← get).exported
  match ← ask (.execute p args environment) with
  | .notExecutable =>
      if mayBeScript (← ask .look) p then
        ask (.execute shellPath (shellPath :: p :: args.drop 1) environment)
      else return .notExecutable
  | cause => return cause

/-- Become the first of some programs that there is, or tell why there is none. -/
def becomeFirst (args : List Octets) : FileError → List Octets → Run FileError
  | cause, [] => return cause
  | cause, p :: ps => do
      match ← becomeAt p args with
      | .notFound | .notDirectory => becomeFirst args cause ps
      | cause => becomeFirst args cause ps

/-- The status of a shell that could not become a program. -/
def statusFor : FileError → Nat
  | .notFound | .notDirectory | .tooManyLinks | .nameTooLong => 127
  | _ => 126

/-- Become a program that is given by name and arguments.  If that cannot be, the shell
ends. -/
def become {α : Type} (path : Octets) (args : List Octets) : Run α := do
  let name := args.headD []
  let cause ← becomeFirst args .notFound (candidates path name)
  complain (name ++ text ": " ++ executeReason cause)
  setStatus (statusFor cause)
  throw .ends

end SkipAudit.Shell.Programs
