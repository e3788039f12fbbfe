/-
Actions of a shell.

A shell is a process with a session.  An action of it may change the session, make requests of
the system, and stop: because the shell ends, or because a command has failed in a way that
takes others with it.
-/
import SkipAudit.Process.Request
import SkipAudit.Shell.Session

namespace SkipAudit.Shell

/-- An action of a shell. -/
abbrev Run (α : Type) := ExceptT Stop (StateT Session Action) α

/-- In what position a command stands. -/
structure Position where
  /-- Its failure is expected. -/
  isTested : Bool
  /-- Nothing comes behind it. -/
  isLast : Bool
deriving DecidableEq, Repr

namespace Position

def plain : Position := ⟨false, false⟩
def tested : Position := ⟨true, false⟩
def last : Position := ⟨false, true⟩

/-- The same position, with more to come. -/
def notLast (p : Position) : Position := { p with isLast := false }

end Position

/-- Carries out commands, and texts with commands. -/
structure Evaluator where
  command : Position → Command → Run Unit
  /-- All the commands of a text. -/
  script : Position → Octets → Run Unit

namespace Run

/-- Do something that has nothing to do with the session. -/
def act {α : Type} (a : Action α) : Run α := ExceptT.lift (StateT.lift a)

/-- Make a request. -/
def ask (r : Request) : Run r.Answer := act (Action.request r)

/-- Over and over, until there is a result. -/
def iterate {σ α : Type} (f : σ → Run (σ ⊕ α)) : Nat → σ → Run α
  | 0, _ => throw .ends
  | n + 1, s => do
      match ← f s with
      | .inl s => iterate f n s
      | .inr a => return a

/-- Set the status. -/
def setStatus (n : Nat) : Run Unit := modify ({ · with status := n })

/-! ## Output and complaints -/

/-- Write to a descriptor; whether that succeeds is told. -/
def emit (fd : Nat) (t : Octets) : Run Bool := do
  match ← act (Action.write fd t) with
  | .ok () => return true
  | .error _ => return false

/-- Write to the output of a builtin. -/
def print (t : Octets) : Run Unit := do
  if !(← emit 1 t) then modify ({ · with hasLostOutput := true })

/-- Write a line to the output of a builtin. -/
def printLine (t : Octets) : Run Unit := print (t ++ ['\n'])

/-- Write diagnostics as they are. -/
def emitError (t : Octets) : Run Unit := do
  let _ ← emit 2 t

/-- Complain, with the name of the shell, the line, and the builtin if there is one. -/
def complain (message : Octets) : Run Unit := do
  let s ← get
  let builtin := match s.builtin? with
    | some b => b ++ text ": "
    | none => []
  emitError (s.name ++ text ": " ++ Text.ofNat s.line ++ text ": " ++ builtin ++ message ++ ['\n'])

/-- The status after a failure. -/
def failureStatus : Nat := 2

/-- Complain and fail. -/
def fail {α : Type} (message : Octets) : Run α := do
  complain message
  setStatus failureStatus
  throw .fails

/-- Open a pipe: the end to read from and the end to write to. -/
def openPipe : Run (Nat × Nat) := do
  match ← ask .pipe with
  | .ok ends => return ends
  | .error _ => fail (text "Pipe call failed")

/-- What a refusal is called when it concerns the opening of a file. -/
def openReason : FileError → Octets
  | .notFound | .notDirectory => text "No such file"
  | e => e.reason

/-- What a refusal is called when it concerns the making of a file. -/
def createReason : FileError → Octets
  | .notFound | .notDirectory => text "Directory nonexistent"
  | e => e.reason

/-- What a refusal is called when it concerns the start of a program. -/
def executeReason : FileError → Octets
  | .notFound | .notDirectory => text "not found"
  | e => e.reason

/-! ## Whatever happens -/

/-- Do something, and something else behind it even if it stops. -/
def andFinally {α : Type} (body : Run α) (after : Run Unit) : Run α := do
  match ← ExceptT.lift body.run with
  | .ok a =>
      after
      return a
  | .error e =>
      after
      throw e

/-- The result of an action, or why it stopped. -/
def caught {α : Type} (body : Run α) : Run (Except Stop α) := ExceptT.lift body.run

/-! ## Children -/

/-- Carry out the trap for the end of the shell, if there is one.  The status is what it was
before, unless the trap ends the shell itself. -/
def carryOutLastTrap (e : Evaluator) : Run Unit := do
  let s ← get
  match s.trap? 0 with
  | none => return
  | some action =>
      set { s with
        traps := s.traps.filter (·.1 != 0), skip := .none, trapStatus? := some s.status }
      match ← caught (e.script .plain action) with
      | .ok () => setStatus s.status
      | .error _ => return

/-- The process that a shell with a session is, when all that is left to it is an action. -/
def toProc (e : Evaluator) (s : Session) (body : Run Unit) : Proc :=
  let whole : Run Unit := do
    let _ ← caught body
    carryOutLastTrap e
  (whole.run.run s) fun (_, s) => .exit s.status

/-- Take a signal in some way.  A signal that was ignored when the shell began stays ignored. -/
def arrange (n : Nat) (h : Handling) : Run Unit := do
  match (← get).arranged.lookup n with
  | some false => return
  | some true =>
      let _ ← ask (.handle n h)
  | none =>
      let old ← ask (.handle n h)
      if old = .ignored then
        let _ ← ask (.handle n .ignored)
      modify fun s => { s with arranged := (n, old != .ignored) :: s.arranged }

/-- Ignore a signal from now on. -/
def shut (n : Nat) : Run Unit := do
  let _ ← ask (.handle n .ignored)
  modify fun s => { s with arranged := (n, false) :: s.arranged }

/-- Forget what is caught for traps, which a child does not have. -/
def releaseSignals (s : Session) : Run Unit := do
  for (n, action) in s.traps do
    if n ≠ 0 ∧ action ≠ [] then arrange n .byDefault

/-- Start a child that does something with a session of its own. -/
def fork (e : Evaluator) (body : Run Unit) : Run Nat := do
  modify (·.claimJob.2)
  let s ← get
  act (Action.fork (toProc e s.ofChild do
    releaseSignals s
    body))

/-- The status that the end of a child means. -/
def statusOf : Ending → Nat
  | .exited n => n
  | .killed n => 128 + n
  | .outOfTime => 128

/-- What is said of a child that a signal has ended. -/
def obituary : Ending → Octets
  | .killed n =>
      match Signal.ofNumber? n with
      | some s => if s.obituary = [] then [] else s.obituary ++ ['\n']
      | none => []
  | _ => []

/-- Wait until some processes have ended; whether they have.  `isPatient`: a signal that is
caught meanwhile changes nothing; otherwise it ends the waiting. -/
def reap (isPatient : Bool) (pids : List Nat) : Run Bool :=
  iterate (fun () => do
    let s ← get
    if pids.all fun p => s.ended.any (·.1 == p) then return .inr true
    else
      match ← ask (.wait true) with
      | .child c =>
          modify fun s => { s with ended := s.ended ++ [(c.pid, c.ending)] }
          if pids.contains c.pid then
            let t := obituary c.ending
            if t ≠ [] then emitError t
          return .inl ()
      | .interrupted => if isPatient then return .inl () else return .inr false
      | .nothing => return .inr false) Action.rounds ()

/-- See which children have ended, without waiting. -/
def look : Run Unit :=
  iterate (fun () => do
    match ← ask (.wait false) with
    | .child c =>
        modify fun s => { s with ended := s.ended ++ [(c.pid, c.ending)] }
        return .inl ()
    | _ => return .inr ()) Action.rounds ()

/-- The status of the last of some processes that have ended. -/
def statusOfLast (pids : List Nat) : Run Nat := do
  match (← get).ended.lookup (pids.getLast?.getD 0) with
  | some ending => return statusOf ending
  | none => return 127

/-- Wait for processes to end, and tell the status of the last. -/
def waitForAll (pids : List Nat) : Run Nat := do
  let _ ← reap true pids
  let status ← statusOfLast pids
  modify fun s => { s with ended := s.ended.filter fun e => !pids.contains e.1 }
  return status

/-! ## Variables -/

/-- Fail if a variable may not be changed. -/
def checkWritable (name : Octets) : Run Unit := do
  if (← get).isReadOnly name then fail (name ++ text ": is read only")

/-- Give a variable a value. -/
def assign (name value : Octets) : Run Unit := do
  checkWritable name
  modify (·.set name value)

end Run

end SkipAudit.Shell
