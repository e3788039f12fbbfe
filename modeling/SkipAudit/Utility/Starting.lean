/-
How programs become other programs, and how they run some to the end.
-/
import SkipAudit.Shell.Programs
import SkipAudit.Utility.Options

namespace SkipAudit.Utility

/-! ## Becoming another program -/

/-- Where programs are looked for if no variable tells. -/
def usualPath : Octets := text "/bin:/usr/bin"

/-- Become the program at a path, or tell why not.  A file that the system cannot execute is
taken for a script of the shell. -/
def becomeAt (p : Octets) (args environment : List Octets) : Action FileError := do
  match ← Action.request (.execute p args environment) with
  | .notExecutable =>
      let sh := Shell.Programs.shellPath
      Action.request (.execute sh (sh :: p :: args.drop 1) environment)
  | cause => return cause

/-- Become the first of some programs that there is, or tell why there is none. -/
def becomeFirst (args environment : List Octets) :
    Bool → FileError → List Octets → Action FileError
  | refused, cause, [] => return if refused then .permission else cause
  | refused, _, p :: ps => do
      match ← becomeAt p args environment with
      | .permission => becomeFirst args environment true .permission ps
      | .notFound => becomeFirst args environment refused .notFound ps
      | .notDirectory => becomeFirst args environment refused .notDirectory ps
      | cause => return cause

/-- Become the program that the first argument names, or tell why not. -/
def become (args environment : List Octets) : Action FileError := do
  let name := args.headD []
  if name = [] then return .notFound
  else
    let path := (environment.findSome? (Text.dropStart? (text "PATH="))).getD usualPath
    becomeFirst args environment false .notFound (Shell.Programs.candidates path name)

/-- The status of a program that could not become another one. -/
def refusedStatus (cause : FileError) : Nat := if cause = .notFound then 127 else 126

/-- Become another program, or complain. -/
def becomeOrWarn (c : Call) (what : String) (args environment : List Octets) : Action Nat := do
  let cause ← become args environment
  c.warn (text what ++ c.quote (args.headD []) ++ text ": " ++ cause.reason)
  return refusedStatus cause

/-- The variables with one of them set. -/
def withVariable (environment : List Octets) (assignment : Octets) : List Octets :=
  let name := assignment.takeWhile (· != '=') ++ ['=']
  if environment.any (Text.startsWith name) then
    environment.map fun v => if Text.startsWith name v then assignment else v
  else environment ++ [assignment]

/-- The variables without one of them. -/
def withoutVariable (environment : List Octets) (name : Octets) : List Octets :=
  environment.filter fun v => !Text.startsWith (name ++ ['=']) v

/-! ## Running to the end -/

/-- How a program that was run ended. -/
inductive RunEnd where
  /-- It was never run; whoever tried came to a status. -/
  | refused (status : Nat)
  | ended (e : Ending)

/-- Wait for the end of a child. -/
def awaitEnd (child : Nat) : Action Ending :=
  Action.repeatUntil .outOfTime (fun () => do
    match ← Action.request (.wait true) with
    | .child e => return if e.pid = child then .inr e.ending else .inl ()
    | .interrupted => return .inl ()
    | _ => return .inr .outOfTime) Action.rounds ()

/-- Run a program to its end, after some preparation.  Whether it could be run is told through a
pipe that is closed when it is. -/
def runToEnd (c : Call) (prepare : Action Unit) (complaint : FileError → Octets)
    (args environment : List Octets) : Action RunEnd := do
  let .ok (r, w) ← Action.request .pipe
    | do
        c.warn (text "could not create pipe before fork: " ++ FileError.tooManyFiles.reason)
        return .refused 1
  let child ← Action.fork (Action.toProc do
    Action.request (.close r)
    prepare
    if let .ok fd ← Action.request (.duplicateFrom w 10) then
      Action.request (.close w)
      let cause ← become args environment
      let _ ← Action.write fd ['!']
      c.warn (complaint cause)
      return refusedStatus cause
    else return 126)
  Action.request (.close w)
  let told ← Action.read r 1
  Action.request (.close r)
  let ending ← awaitEnd child
  match told, ending with
  | .ok (_ :: _), .exited status => return .refused status
  | _, e => return .ended e

/-- Have nothing to read. -/
def withoutInput : Action Unit := do
  if let .ok fd ← Action.openFile (text "/dev/null") .reading then
    let _ ← Action.request (.duplicate fd 0)
    Action.request (.close fd)

/-- Run the shell with a command that reads a text, and wait for its end. -/
def feedShell (c : Call) (command : Octets) (environment : List Octets) (t : Octets) :
    Action Ending := do
  let shell := match c.valueOf? "SHELL" with
    | some p => p
    | none => text "/bin/sh"
  let .ok (r, w) ← Action.request .pipe
    | return .exited 1
  let child ← Action.fork (Action.toProc do
    Action.request (.close w)
    let _ ← Action.request (.duplicate r 0)
    Action.request (.close r)
    let name := (Text.cutAt '/' shell).getLastD []
    let cause ← becomeAt shell [name, text "-c", command] environment
    c.warn (text "failed to run command: \"" ++ shell ++ text " -c " ++ command ++ text "\": " ++
      cause.reason)
    return 1)
  Action.request (.close r)
  let _ ← Action.write w t
  Action.request (.close w)
  awaitEnd child

end SkipAudit.Utility
