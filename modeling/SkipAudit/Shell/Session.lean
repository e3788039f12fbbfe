/-
What a shell keeps in mind between commands.
-/
import SkipAudit.Number.Natural
import SkipAudit.Process.Signal
import SkipAudit.Shell.Syntax

namespace SkipAudit.Shell

/-- A variable.  One without a value is only marked. -/
structure Variable where
  name : Octets
  value? : Option Octets
  exported : Bool
  readOnly : Bool
deriving DecidableEq, Repr

/-- A function. -/
structure Function where
  name : Octets
  body : Command

/-- Why the commands that follow are passed over. -/
inductive Skip where
  | none
  /-- Out of so many loops. -/
  | leave (loops : Nat)
  /-- To the next round of the loop so many loops out. -/
  | again (loops : Nat)
  /-- Out of the function or the script; `isTold`: with a status of its own. -/
  | comeBack (isTold : Bool)
deriving DecidableEq, Repr

/-- A command in the background. -/
structure Job where
  number : Nat
  /-- The processes of its pipeline. -/
  pids : List Nat
  /-- Somebody has asked for its end. -/
  isSettled : Bool
deriving DecidableEq, Repr

/-- How far the options among the arguments have been read. -/
structure OptionPlace where
  /-- The argument that comes next, counted from one. -/
  index : Nat
  /-- How far the argument before it has been read, if it is not finished. -/
  offset? : Option Nat
deriving DecidableEq, Repr

/-- The state of a shell. -/
structure Session where
  environment : List Variable
  /-- What local variables hide, for each function that is being carried out. -/
  hidden : List (List (Octets × Option Variable))
  functions : List Function
  aliases : List (Octets × Octets)
  /-- The names of programs that have been found. -/
  programs : List Octets
  name : Octets
  arguments : List Octets
  status : Nat
  /-- The status of the last command whose output was taken into a word. -/
  outputStatus : Nat
  /-- The status from before a trap, while the trap is carried out. -/
  trapStatus? : Option Nat
  /-- The line that complaints refer to. -/
  line : Nat
  /-- The line up to which the script has been read. -/
  readLine : Nat
  /-- How many functions are being carried out inside each other. -/
  functionDepth : Nat
  /-- The builtin that is being carried out. -/
  builtin? : Option Octets
  options : List Char
  pid : Nat
  parentPid : Nat
  lastJob : Option Nat
  /-- The jobs, the newest first. -/
  jobs : List Job
  /-- Children that have ended and that nobody has asked for yet. -/
  ended : List (Nat × Ending)
  traps : List (Nat × Octets)
  /-- The signals that the shell has been concerned with, and whether it may take them as it
  likes. -/
  arranged : List (Nat × Bool)
  skip : Skip
  loops : Nat
  /-- Something that a builtin wrote was lost. -/
  hasLostOutput : Bool
  /-- The signals that were caught and whose traps have not been carried out yet. -/
  pending : List Nat
  optionPlace : OptionPlace
  /-- The path of the current directory, as it was reached. -/
  directory : Octets
  isChild : Bool

/-- Why a shell gives up what it does. -/
inductive Stop where
  /-- The shell ends with the current status. -/
  | ends
  /-- The command has failed, and has complained. -/
  | fails
deriving DecidableEq, Repr

namespace Session

/-- Names of variables with a meaning for the shell. -/
def pathName : Octets := text "PATH"
def separatorsName : Octets := text "IFS"
def homeName : Octets := text "HOME"
def directoryName : Octets := text "PWD"
def oldDirectoryName : Octets := text "OLDPWD"
def optionIndexName : Octets := text "OPTIND"
def optionArgumentName : Octets := text "OPTARG"
def tracePromptName : Octets := text "PS4"

/-- The separators of fields, unless they are set otherwise. -/
def defaultSeparators : Octets := text " \t\n"

/-! ## Options -/

/-- The options of a shell, by letter and by name. -/
def optionNames : List (Char × String) :=
  [('e', "errexit"), ('f', "noglob"), ('I', "ignoreeof"), ('i', "interactive"),
   ('m', "monitor"), ('n', "noexec"), ('s', "stdin"), ('x', "xtrace"), ('v', "verbose"),
   ('V', "vi"), ('E', "emacs"), ('C', "noclobber"), ('a', "allexport"), ('b', "notify"),
   ('u', "nounset"), ('p', "privileged")]

/-- The options without a letter. -/
def longOptions : List (Char × String) := [('L', "nolog"), ('D', "debug")]

/-- The option is on. -/
def has (s : Session) (option : Char) : Bool := s.options.contains option

/-- Turn an option on or off. -/
def setOption (s : Session) (option : Char) (on : Bool) : Session :=
  let others := s.options.filter (· != option)
  { s with options := if on then option :: others else others }

/-- The letters of the options that are on, from the last. -/
def optionLetters (s : Session) : Octets := ((optionNames.map (·.1)).filter s.has).reverse

/-! ## Variables -/

/-- The variable with a name. -/
def find? (s : Session) (name : Octets) : Option Variable := s.environment.find? (·.name == name)

/-- The value of a variable. -/
def get? (s : Session) (name : Octets) : Option Octets := do (← s.find? name).value?

/-- The variable may not be changed. -/
def isReadOnly (s : Session) (name : Octets) : Bool := (s.find? name).any (·.readOnly)

/-- Change the variable with a name, or make it. -/
def alter (s : Session) (name : Octets) (f : Variable → Variable) : Session :=
  if s.environment.any (·.name == name) then
    { s with environment := s.environment.map fun v => if v.name = name then f v else v }
  else { s with environment := s.environment ++ [f ⟨name, none, false, false⟩] }

/-- What follows from a change of a variable. -/
def afterChange (s : Session) (name : Octets) : Session :=
  if name = pathName then { s with programs := [] }
  else if name = optionIndexName then
    let n := ((s.get? name).bind Text.toNat?).getD 1
    { s with optionPlace := ⟨max n 1, none⟩ }
  else s

/-- Give a variable a value. -/
def set (s : Session) (name value : Octets) : Session :=
  (s.alter name fun v =>
    { v with value? := some value, exported := v.exported || s.has 'a' }).afterChange name

/-- Forget a variable. -/
def unset (s : Session) (name : Octets) : Session :=
  { s with environment := s.environment.filter (·.name != name) }

/-- Put a variable back as it was. -/
def restore (s : Session) (name : Octets) : Option Variable → Session
  | some v =>
      if s.environment.any (·.name == name) then
        { s with environment := s.environment.map fun w => if w.name = name then v else w }
      else { s with environment := s.environment ++ [v] }
  | none => s.unset name

/-- The drawer that a name is kept in, of so many. -/
def drawer (count : Nat) (name : Octets) : Nat :=
  let sum := Natural.total (name.map Char.toNat) + (name.head?.map Char.toNat).getD 0 * 16
  sum % Natural.twoTo 15 % count

/-- Named things in the order of their drawers. -/
def inDrawers {α : Type} (count : Nat) (name : α → Octets) (xs : List α) : List α :=
  xs.mergeSort fun a b => drawer count (name a) ≤ drawer count (name b)

/-- How many drawers there are for variables and for aliases. -/
def drawerCount : Nat := 39

/-- How many drawers there are for the names of programs. -/
def programDrawerCount : Nat := 31

/-- The variables that are handed on to programs. -/
def exported (s : Session) : List Octets :=
  (inDrawers drawerCount Variable.name s.environment).filterMap fun v =>
    if v.exported then v.value?.map fun t => v.name ++ '=' :: t else none

/-- The characters that separate fields. -/
def separators (s : Session) : Octets := (s.get? separatorsName).getD defaultSeparators

/-! ## Local variables -/

/-- Keep the state of a variable, to bring it back when the function is over. -/
def hide (s : Session) (name : Octets) : Session :=
  match s.hidden with
  | frame :: frames =>
      if frame.any (·.1 == name) then s
      else { s with hidden := ((name, s.find? name) :: frame) :: frames }
  | [] => s

/-- Begin a scope of local variables. -/
def enterScope (s : Session) : Session := { s with hidden := [] :: s.hidden }

/-- End a scope of local variables. -/
def leaveScope (s : Session) : Session :=
  match s.hidden with
  | frame :: frames =>
      let t := frame.foldl (fun t (name, v?) => t.restore name v?) s
      { t with hidden := frames }
  | [] => s

/-! ## The rest -/

/-- The function with a name. -/
def function? (s : Session) (name : Octets) : Option Function :=
  s.functions.find? (·.name == name)

/-- What a trap has for a signal. -/
def trap? (s : Session) (signal : Nat) : Option Octets := s.traps.lookup signal

/-- Some trap is for a signal. -/
def catchesSignals (s : Session) : Bool := s.traps.any fun t => t.1 != 0 && t.2 != []

/-- All processes of a job have ended. -/
def hasEnded (s : Session) (j : Job) : Bool := j.pids.all fun p => s.ended.any (·.1 == p)

/-- Forget a job. -/
def forgetJob (s : Session) (j : Job) : Session :=
  { s with
    jobs := s.jobs.filter (·.number != j.number)
    ended := s.ended.filter fun e => !j.pids.contains e.1 }

/-- The number for a new job: the lowest that is free, or can be made free because its job is
settled. -/
def claimJob (s : Session) : Nat × Session :=
  let inUse := s.jobs.filter fun j => !(j.isSettled && s.hasEnded j)
  let taken := inUse.map (·.number)
  let n := (((List.range (taken.length + 1)).map (· + 1)).find? (!taken.contains ·)).getD 1
  match s.jobs.find? (·.number == n) with
  | some j => (n, s.forgetJob j)
  | none => (n, s)

/-- A new job in the background. -/
def addJob (s : Session) (pids : List Nat) : Session :=
  let (number, s) := s.claimJob
  { s with jobs := ⟨number, pids, false⟩ :: s.jobs, lastJob := pids.getLast? }

/-- The session of a child: traps are forgotten, but what is ignored stays ignored. -/
def ofChild (s : Session) : Session :=
  { s with traps := s.traps.filter (·.2 == []), jobs := [], ended := []
           isChild := true }

end Session

end SkipAudit.Shell
