/-
Time, and whose turn it is.

Each request takes some time, and the process whose time comes first is the next to go on, so
processes run side by side.  When all wait, the clock moves to the next deadline.
-/
import SkipAudit.Process.Service

namespace SkipAudit

namespace Request

/-- How long a request takes, in microseconds. -/
def cost : Request → Nat
  | .tick | .clock | .numbers | .takeSignals | .inspect _ | .limits => 1
  | .write _ bytes => 2 + bytes.length / 50
  | .read .. | .close _ | .duplicate .. | .duplicateFrom .. | .handle .. | .look | .seek ..
  | .withhold _ | .giveWay _ | .setLimit _ => 2
  | .openFile .. | .amend _ | .pipe | .changeDirectory _ | .kill .. | .leadGroup => 5
  | .wait _ | .sleepUntil _ => 50
  | .execute .. => 600

/-- The request lets nobody go on who waits, beyond those whom its answer takes care of. -/
def isPrivate : Request → Bool
  | .tick | .clock | .numbers | .takeSignals | .inspect _ | .look | .handle .. | .limits
  | .withhold _ | .giveWay _ | .setLimit _ | .read .. => true
  | _ => false

end Request

namespace Process

/-- How long a process may be busy before it counts as one that has lost its way, in
microseconds. -/
def patience : Nat := 1200000

/-- How long something takes that such a process does. -/
def lostCost (cost : Nat) : Nat := 20 * cost + 1000

/-- How long a process takes to split, and how long its child takes to begin. -/
def forkCost : Nat := 200

/-- The process after an answer: it goes on after some time. -/
def resumed (p : Process) (now cost : Nat) (next : Proc) : Process :=
  let time := if patience < p.effort then lostCost cost else cost
  { p with next, wake := now + time, effort := p.effort + cost, used := p.used + time }

/-- The process has been busy for longer than it may. -/
def hasOverrun (p : Process) : Bool :=
  match p.limit? 't' with
  | some seconds => seconds * System.perSecond ≤ p.used
  | none => false

end Process

namespace System

/-! ## One step -/

/-- The process whose turn it is. -/
def nextProcess? (s : System) : Option Process :=
  s.processes.foldl (fun best? p =>
    if p.isWaiting || p.isStopped then best?
    else match best? with
      | some best => if p.wake < best.wake then some p else best?
      | none => some p) none

/-- Start a child of a process, with all that the parent has. -/
def forkProcess (s : System) (p : Process) (child : Proc) (next : Nat → Proc) : System :=
  let pid := s.nextPid
  let q : Process :=
    { p with pid, parent := p.pid, next := child, caught := [], opening? := none
             wake := s.clock + 2 * Process.forkCost, isWaiting := false, effort := 0, used := 0 }
  let s := s.setProcess (p.resumed s.clock Process.forkCost (next pid))
  { s with processes := s.processes ++ [q], nextPid := pid + 1 }

/-- Let a process go on. -/
def advance (load : Loader) (s : System) (p : Process) : System :=
  if p.hasOverrun then s.signal p.pid Signal.ofKill
  else match p.next with
  | .exit status => s.endProcess p.pid (.exited (status % 256))
  | .fork child next => s.forkProcess p child next
  | .call r next =>
      match s.serve load p r with
      | .answer a s =>
          let s := s.modifyProcess p.pid (·.resumed s.clock r.cost (next a))
          if r.isPrivate then s else s.stir
      | .become q s => s.modifyProcess p.pid (·.resumed s.clock r.cost q)
      | .wait (some t) => s.setProcess { p with wake := max t s.clock, effort := 0 }
      | .wait none => s.setProcess { p with isWaiting := true }
      | .hold s => s.stir.modifyProcess p.pid ({ · with isWaiting := true })

/-! ## Executions -/

/-- Nobody can write any more to the collectors of an execution. -/
def isSilent (s : System) (x : Execution) : Bool :=
  !s.isReached (.collector x.output) && !s.isReached (.collector x.diagnostics)

/-- The execution is over: its program has ended and nobody can write any more what it
collects, or its time is over. -/
def isOver (s : System) (x : Execution) : Bool :=
  match x.ending? with
  | none => false
  | some .outOfTime => true
  | some _ => s.isSilent x

/-- End an execution whose time is over: its program is killed, but not what that has
started. -/
def expire (s : System) (x : Execution) : System :=
  let s : System :=
    { s with
      clock := max s.clock (x.deadline.getD s.clock)
      executions := s.executions.map fun y =>
        if y.number = x.number then { y with ending? := some .outOfTime } else y
      collectors := s.collectors.map fun c =>
        if c.number = x.output ∨ c.number = x.diagnostics then c.close else c }
  s.signal x.pid Signal.ofKill

/-- The execution whose deadline comes first among those that are not over. -/
def nextDeadline? (s : System) : Option (Nat × Execution) :=
  s.executions.foldl (fun best? x =>
    if s.isOver x then best?
    else match x.deadline, best? with
      | none, _ => best?
      | some t, some (u, _) => if t < u then some (t, x) else best?
      | some t, none => some (t, x)) none

/-- Let the next thing happen: a process goes on, or a deadline comes.  Nothing if there is
nothing to come. -/
def step? (load : Loader) (s : System) : Option System :=
  match s.nextProcess?, s.nextDeadline? with
  | none, none => none
  | none, some (_, x) => some (s.expire x)
  | some p, none => some ({ s with clock := max s.clock p.wake }.advance load p)
  | some p, some (t, x) =>
      if t ≤ p.wake then some (s.expire x)
      else some ({ s with clock := max s.clock p.wake }.advance load p)

/-- More steps than anything takes. -/
def steps : Nat := Natural.tenTo 15

/-- Let things happen until some execution is over. -/
def proceedWithin (load : Loader) : Nat → System → System
  | 0, s => s
  | n + 1, s =>
      if s.executions.any s.isOver then s
      else match s.step? load with
        | some s => proceedWithin load n s
        | none => s

/-- Let things happen until some execution is over. -/
def proceed (load : Loader) (s : System) : System := proceedWithin load steps s

end System

end SkipAudit
