/-
Builtins for commands in the background, and for signals.
-/
import SkipAudit.Shell.Builtin.Control

namespace SkipAudit.Shell.Builtin

open Run

/-- The job that a word behind a percent sign means. -/
def jobNamed (name : Octets) : Run Job := do
  let jobs := (← get).jobs
  let found (j? : Option Job) (complaint : Octets) : Run Job :=
    match j? with
    | some j => pure j
    | none => fail complaint
  let unknown := text "No such job: " ++ name
  match name with
  | ['%'] | ['%', '+'] | ['%', '%'] => found jobs.head? (text "No current job")
  | ['%', '-'] => found (jobs.drop 1).head? (text "No previous job")
  | '%' :: t =>
      match Text.toNat? t with
      | some n => found (jobs.find? (·.number == n)) unknown
      | none => fail unknown
  | _ => fail unknown

/-! ## Waiting -/

/-- The status of one whom a signal has interrupted. -/
def interrupted : Run Nat := do
  let ns ← ask .takeSignals
  modify fun s => { s with pending := s.pending ++ ns.filter (!s.pending.contains ·) }
  return 128 + ((← get).pending.getLast?.getD 0)

/-- Note that somebody has asked for the end of a job. -/
def settle (j : Job) : Run Unit :=
  modify fun s =>
    { s with jobs := s.jobs.map fun k => if k.number = j.number then { k with isSettled := true }
                                         else k }

/-- Wait for jobs, and tell the status of the last; nothing if a signal came first. -/
def waitForJobs (status : Nat) : List Job → Run (Option Nat)
  | [] => return some status
  | j :: js => do
      if ← reap false j.pids then
        settle j
        waitForJobs (← statusOfLast j.pids) js
      else if (← get).hasEnded j then waitForJobs status js
      else return none

/-- The job that an argument means: by its last process, or by its number. -/
def jobFor (t : Octets) : Run (Option Job) := do
  if Text.startsWith ['%'] t then return some (← jobNamed t)
  else
    let pid ← number t
    return (← get).jobs.find? fun j => j.pids.getLast? == some pid

/-- Wait for jobs one after the other; one that is not known counts as a failure. -/
def waitForNamed (status : Nat) : List Octets → Run Nat
  | [] => return status
  | t :: ts => do
      match ← jobFor t with
      | none => waitForNamed status ts
      | some j =>
          match ← waitForJobs 0 [j] with
          | some status => waitForNamed status ts
          | none => interrupted

/-- Wait for every process; whether a signal came first is told. -/
def waitForEveryone : Run Bool :=
  iterate (fun () => do
    let s ← get
    if s.jobs.all s.hasEnded then return .inr true
    else
      match ← ask (.wait true) with
      | .child c =>
          modify fun s => { s with ended := s.ended ++ [(c.pid, c.ending)] }
          return .inl ()
      | .interrupted => return .inr false
      | .nothing => return .inr true) Action.rounds ()

/-- Wait for jobs. -/
def wait : Builtin := fun _ _ _ args => do
  match ← plain args with
  | [] =>
      if ← waitForEveryone then
        modify fun s => { s with jobs := s.jobs.map ({ · with isSettled := true }) }
        return 0
      else interrupted
  | args => waitForNamed 127 args

/-! ## Showing jobs -/

/-- The state of a job in words. -/
def stateOf (s : Session) (j : Job) : Octets :=
  if !s.hasEnded j then text "Running"
  else match s.ended.lookup (j.pids.getLast?.getD 0) with
    | some (.exited 0) | none => text "Done"
    | some (.exited n) => text "Done(" ++ Text.ofNat n ++ [')']
    | some (.killed 2) => text "Interrupt"
    | some (.killed 13) => text "Broken pipe"
    | some (.killed n) => ((Signal.ofNumber? n).map Signal.obituary).getD []
    | some .outOfTime => text "Killed"

/-- The column in which the text of a job begins. -/
def textColumn : Nat := 33

/-- Show a job: by its first process alone, or with the processes. -/
def showJob (onlyPid withPids : Bool) (j : Job) : Run Unit := do
  let s ← get
  let pids := j.pids.map Text.ofNat
  if onlyPid then printLine (pids.headD [])
  else
    let sign := if s.jobs.head? = some j then '+'
      else if (s.jobs.drop 1).head? = some j then '-' else ' '
    let front := '[' :: Text.ofNat j.number ++ [']', ' ', sign, ' ']
    let pad (t : Octets) := t ++ List.replicate (textColumn - t.length) ' '
    let first := pad (front ++ (if withPids then pids.headD [] ++ [' '] else []) ++ stateOf s j)
    let others := pids.drop 1
    if withPids then
      let indent := List.replicate front.length ' '
      printLine (first ++ others.flatMap fun p => pad (text " |\n" ++ indent ++ p))
    else printLine (first ++ others.flatMap fun _ => text " | ")
  modify fun s => if s.hasEnded j then s.forgetJob j else s

/-- Show jobs. -/
def jobs : Builtin := fun _ _ _ args => do
  let (os, names) ← options "lp" args
  look
  let onlyPid := os.getLast?.map (·.1) = some 'p'
  let shown ← if names = [] then pure (← get).jobs else names.mapM jobNamed
  shown.forM (showJob onlyPid (os.getLast?.map (·.1) = some 'l'))
  return 0

/-- Bring a job to the foreground or to the background, which is only possible at a terminal. -/
def moveJob : Builtin := fun _ _ _ args => do
  let args ← plain args
  let _ ← jobNamed (args.headD ['%'])
  fail (text "job " ++ args.headD (text "(null)") ++ text " not created under job control")

/-! ## Signals -/

/-- How the sending of signals is asked for. -/
def killUsage : Octets :=
  text "Usage: kill [-s sigspec | -signum | -sigspec] [pid | job]... or\nkill -l [exitstatus]"

/-- Show the names of signals. -/
def showSignals : List Octets → Run Nat
  | [] => do
      printLine ['0']
      ((List.range signalCount).drop 1).forM fun n => printLine ((signalName? n).getD [])
      return 0
  | t :: _ => do
      let n ← number t
      let n := if 128 < n then n - 128 else n
      match if n = 0 then none else signalName? n with
      | some name => printLine name
      | none => fail (text "invalid signal number or exit status: " ++ t)
      return 0

/-- Send a signal to one whom an argument means; whether that was possible. -/
def sendTo (signal : Nat) (t : Octets) : Run Bool := do
  let target : Int ← match t with
    | '%' :: _ => do pure (-((← jobNamed t).pids.headD 0 : Int))
    | '-' :: u => do pure (-(← number u : Int))
    | _ => do pure (← number t : Int)
  match ← ask (.kill target signal) with
  | .ok () => return true
  | .error cause =>
      complain (FileError.reason cause ++ ['\n'])
      return false

/-- Send a signal to some. -/
def sendToAll (signal : Nat) (args : List Octets) : Run Nat := do
  if args = [] then fail killUsage
  else args.foldlM (fun status t => do return if ← sendTo signal t then status else 1) 0

/-- The signal that is sent unless another one is asked for. -/
def usualSignal : Nat := 15

/-- Send signals, or show their names. -/
def kill : Builtin := fun _ _ _ args => do
  match args with
  | ('-' :: word) :: rest =>
      match signal? 1 word with
      | some n => sendToAll n rest
      | none =>
          let (os, rest) ← options "ls:" args
          let signal? ← os.foldlM (fun n? (letter, value) =>
            if letter = 's' then
              match signal? 1 value with
              | some n => pure (some n)
              | none => fail (text "invalid signal number or name: " ++ value)
            else pure n?) none
          if os.any (·.1 == 'l') then
            if signal?.isSome then fail killUsage else showSignals rest
          else sendToAll (signal?.getD usualSignal) rest
  | args => sendToAll usualSignal args

end SkipAudit.Shell.Builtin
