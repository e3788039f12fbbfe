/-
The shell as a program.

Its arguments are options, and then the script: a text behind the option for that, a file, or
what it reads from its input.
-/
import SkipAudit.Shell.Evaluation

namespace SkipAudit.Shell.Invocation

open Run

/-! ## The session at the beginning -/

/-- The name of a variable with the number of the parent. -/
def parentName : Octets := text "PPID"

/-- The variables that a shell has of itself. -/
def ownVariables : List Variable :=
  [(Session.separatorsName, Session.defaultSeparators),
   (Session.pathName, text "/usr/local/sbin:/usr/local/bin:/usr/sbin:/usr/bin:/sbin:/bin"),
   (text "PS1", text "# "), (text "PS2", text "> "), (Session.tracePromptName, text "+ "),
   (Session.optionIndexName, ['1'])].map fun (name, value) => ⟨name, some value, false, false⟩

/-- A session at the beginning. -/
def initial (name : Octets) (pid parentPid : Nat) : Session :=
  { environment := ownVariables, hidden := [], functions := [], aliases := [], programs := []
    name, arguments := [], status := 0, outputStatus := 0, trapStatus? := none
    line := 0, readLine := 1, functionDepth := 0, builtin? := none, options := []
    pid, parentPid, lastJob := none, jobs := [], ended := [], traps := [], arranged := []
    skip := .none, loops := 0, hasLostOutput := false, pending := [], optionPlace := ⟨1, none⟩
    directory := [], isChild := false }

/-- Take over a variable from outside. -/
def takeOver (s : Session) (given : Octets) : Session :=
  match assignment? given with
  | some (name, value) =>
      s.alter name fun v => { v with value? := some value, exported := true }
  | none => s

/-- The path by which the current directory was reached, if the variable for it is right. -/
def directoryIn (fs : FileSystem) (s : Session) : Octets :=
  let physical := fs.currentPath.written
  match s.get? Session.directoryName with
  | some p =>
      match p, fs.locate true (Path.mk p) with
      | '/' :: _, .ok (.taken place (.dir ..)) => if place = fs.cwd then p else physical
      | _, _ => physical
  | none => physical

/-- Set the variables that are as the shell says. -/
def settle (fs : FileSystem) (s : Session) : Session :=
  let s := s.set Session.separatorsName Session.defaultSeparators
  let s := s.set Session.optionIndexName ['1']
  let s := s.set parentName (Text.ofNat s.parentPid)
  let directory := directoryIn fs s
  let s := s.alter Session.directoryName fun v =>
    { v with value? := some directory, exported := true }
  { s with directory }

/-! ## Arguments -/

/-- What the options say about the script: it is one of the arguments, or the input. -/
structure Choice where
  isText : Bool
  rest : List Octets

/-- Read option letters. -/
def letters (on : Bool) : Octets → Bool → List Octets → Run (Bool × List Octets)
  | [], isText, args => return (isText, args)
  | 'c' :: cs, _, args => letters on cs true args
  | 'l' :: cs, isText, args => letters on cs isText args
  | c :: cs, isText, args => do letters on cs isText (← Builtin.setLetters on [c] args)

/-- Read the options; the number bounds how many there are. -/
def options : Nat → Bool → List Octets → Run Choice
  | 0, isText, args => return ⟨isText, args⟩
  | n + 1, isText, args =>
      match args with
      | ['-'] :: rest | ['-', '-'] :: rest => return ⟨isText, rest⟩
      | ('-' :: cs) :: rest => do
          let (isText, rest) ← letters true cs isText rest
          options n isText rest
      | ('+' :: cs) :: rest => do
          let (isText, rest) ← letters false cs isText rest
          options n isText rest
      | args => return ⟨isText, args⟩

/-! ## The script -/

/-- The script that is read from a descriptor. -/
def unread : Script := ⟨[], 1, false⟩

/-- Carry out what the arguments say. -/
def carryOut (e : Evaluator) (args : List Octets) : Run Unit := do
  let choice ← options (args.length + 1) false args
  if (← get).has 'i' then Builtin.setLetter true 'm'
  let setName : List Octets → Run Unit
    | name :: arguments => modify ({ · with name, arguments })
    | [] => pure ()
  match choice.isText, choice.rest with
  | true, [] => fail (text "-c requires an argument")
  | true, t :: rest =>
      setName rest
      e.script .last t
      if (← get).has 's' then Source.carryOut e.command .plain (some 0) unread
  | false, [] =>
      modify (·.setOption 's' true)
      Source.carryOut e.command .plain (some 0) unread
  | false, path :: rest =>
      if (← get).has 's' then
        modify ({ · with arguments := path :: rest })
        Source.carryOut e.command .plain (some 0) unread
      else
        let fd ← Redirecting.openFor .input path
        let source ← Redirecting.keep fd
        ask (.close fd)
        setName (path :: rest)
        Source.carryOut e.command .plain source unread

/-- The shell, with its arguments, the first of which is its name, and its variables. -/
def program (args environment : List Octets) : Proc :=
  (do
    let (pid, parentPid) ← Action.request .numbers
    let fs ← Action.request .look
    let s := settle fs (environment.foldl takeOver (initial (args.headD (text "sh")) pid parentPid))
    fun (_ : Unit → Proc) =>
      toProc Evaluation.unbounded s (carryOut Evaluation.unbounded (args.drop 1))
    : Action Unit) fun _ => .exit 0

end SkipAudit.Shell.Invocation
