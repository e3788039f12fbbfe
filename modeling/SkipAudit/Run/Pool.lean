/-
The worker pool, as a protocol.

A coordinator starts one task for every job and then listens.  A task takes one of a fixed number
of permits, executes its job while holding it, gives it back, and sends the result over a
queue; a task whose executor dies gives its permit back too and sends nothing.  When all are
started the coordinator drops its own end of the queue and receives until nobody can send.

`Step` has every order in which these actions can happen, with every outcome that executing
may have.  `run` goes through one of these orders, the outcomes being those that an executor
comes to in its world.
-/
import SkipAudit.Job

namespace SkipAudit

/-- Executes jobs in a world.  Several of them may be under way at once, each under a number of
its own. -/
structure Executor (ω : Type) where
  /-- Begin to execute a job. -/
  start : Nat → Job → ω → ω
  /-- What executing a job has come to, if it is over: the outcome, or none if the executor died
  on it. -/
  result? : Nat → ω → Option (Option Outcome × ω)
  /-- Let the world go on until some job is over. -/
  proceed : ω → ω

/-- A world with the outcomes of jobs that are over, each under its number. -/
structure Answered (ω : Type) where
  answers : List (Nat × Option Outcome)
  world : ω

/-- The executor that knows what every job comes to, and executes none. -/
def Executor.answering {ω : Type} (outcome? : Job → Option Outcome) : Executor (Answered ω) where
  start number j w := { w with answers := (number, outcome? j) :: w.answers }
  result? number w :=
    (w.answers.lookup number).map fun o =>
      (o, { w with answers := w.answers.filter (·.1 != number) })
  proceed w := w

namespace Pool

/-- How far a task has come. -/
inductive Phase where
  /-- It waits for a permit. -/
  | waiting
  /-- It holds a permit and executes. -/
  | executing
  /-- It has executed, or died, and still holds its permit. -/
  | executed (outcome? : Option Outcome)
  /-- It has a result to send and no permit. -/
  | ready (outcome : Outcome)
  /-- It has sent its result. -/
  | sent
  /-- It ended without a result. -/
  | dead
deriving DecidableEq, Repr

/-- The task can still act, and so can still send. -/
def Phase.isLive : Phase → Bool
  | .sent | .dead => false
  | _ => true

/-- A job and how far its task has come. -/
structure Task where
  job : Job
  phase : Phase
deriving DecidableEq, Repr

/-- How far the coordinator has come. -/
inductive Coordinator where
  /-- It starts tasks; these jobs are left. -/
  | starting (jobs : List Job)
  /-- It has dropped its own end of the queue and receives. -/
  | receiving
  /-- It has received everything. -/
  | ended
deriving DecidableEq, Repr

/-- A state of the pool. -/
structure State where
  coordinator : Coordinator
  tasks : List Task
  /-- Permits nobody holds. -/
  free : Nat
  /-- Waiting for a permit fails: nothing ever makes it so. -/
  closed : Bool
  /-- Results that were sent and not received. -/
  queue : List JobResult
  delivered : List JobResult
deriving DecidableEq, Repr

/-- Before anything has happened. -/
def State.initial (jobs : List Job) (size : Nat) : State :=
  ⟨.starting jobs, [], size, false, [], []⟩

/-- The outcome of a task that waits for a permit in vain. -/
def refusedOutcome : Outcome := .harnessFailed (text "semaphore closed")

/-- An action of the pool; actions of tasks name the task by its number. -/
inductive Action where
  | start
  | hangUp
  | take (i : Nat)
  | refuse (i : Nat)
  /-- Executing is over, with an outcome, or the executor has died. -/
  | execute (i : Nat) (outcome? : Option Outcome)
  | release (i : Nat)
  | send (i : Nat)
  | receive
  | finish
deriving DecidableEq, Repr

namespace State

/-- The state with the phase of a task changed. -/
def setPhase (s : State) (i : Nat) (p : Phase) : State :=
  { s with tasks := s.tasks.modify i ({ · with phase := p }) }

/-- An action of task `i`, given as a function of its job and its phase. -/
def atTask (s : State) (i : Nat) (f : Job → Phase → Option State) : Option State :=
  match s.tasks[i]? with
  | some t => f t.job t.phase
  | none => none

end State

/-- The state after an action, if it is possible. -/
def act (s : State) : Action → Option State
  | .start =>
      match s.coordinator with
      | .starting (j :: js) =>
          some { s with coordinator := .starting js, tasks := s.tasks ++ [⟨j, .waiting⟩] }
      | _ => none
  | .hangUp =>
      match s.coordinator with
      | .starting [] => some { s with coordinator := .receiving }
      | _ => none
  | .take i => s.atTask i fun _ p =>
      if p = .waiting ∧ s.closed = false ∧ 0 < s.free then
        some { s.setPhase i .executing with free := s.free - 1 }
      else none
  | .refuse i => s.atTask i fun _ p =>
      if p = .waiting ∧ s.closed = true then some (s.setPhase i (.ready refusedOutcome)) else none
  | .execute i outcome? => s.atTask i fun _ p =>
      if p = .executing then some (s.setPhase i (.executed outcome?)) else none
  | .release i => s.atTask i fun _ p =>
      match p with
      | .executed (some o) => some { s.setPhase i (.ready o) with free := s.free + 1 }
      | .executed none => some { s.setPhase i .dead with free := s.free + 1 }
      | _ => none
  | .send i => s.atTask i fun j p =>
      match p with
      | .ready o => some { s.setPhase i .sent with queue := s.queue ++ [j.result o] }
      | _ => none
  | .receive =>
      match s.coordinator, s.queue with
      | .receiving, r :: rest => some { s with queue := rest, delivered := s.delivered ++ [r] }
      | _, _ => none
  | .finish =>
      if s.coordinator = .receiving ∧ s.queue = [] ∧ s.tasks.all (!·.phase.isLive) then
        some { s with coordinator := .ended }
      else none

/-- What executing each job may come to. -/
abbrev Behaviour := Job → Option Outcome → Prop

/-- An action agrees with what executing may come to. -/
def Action.agrees (may : Behaviour) (s : State) : Action → Prop
  | .execute i outcome? => ∀ t, s.tasks[i]? = some t → may t.job outcome?
  | _ => True

/-- One action leads from `s` to `s'`. -/
inductive Step (may : Behaviour) : State → State → Prop
  | act {s s' : State} (a : Action) : a.agrees may s → act s a = some s' → Step may s s'

/-- A state that can be reached from the start. -/
inductive Reachable (may : Behaviour) (jobs : List Job) (size : Nat) : State → Prop
  | initial : Reachable may jobs size (.initial jobs size)
  | step {s s' : State} :
      Reachable may jobs size s → Step may s s' → Reachable may jobs size s'

/-! ## One run -/

variable {ω : Type}

/-- The next action of a task that needs no outcome. -/
def Phase.nextAction? (i : Nat) : Phase → Option Action
  | .waiting => some (.take i)
  | .executed _ => some (.release i)
  | .ready _ => some (.send i)
  | .executing | .sent | .dead => none

/-- The actions that may come next and need no outcome, the preferred one first. -/
def candidates (s : State) : List Action :=
  [.start, .hangUp] ++ (s.tasks.mapIdx fun i t => t.phase.nextAction? i).filterMap id ++
    [.receive, .finish]

/-- The world after an action: it begins to execute when a permit is taken. -/
def worldAfter (exec : Executor ω) (s : State) (w : ω) : Action → ω
  | .take i =>
      match s.tasks[i]? with
      | some t => exec.start i t.job w
      | none => w
  | _ => w

/-- The numbers of the tasks that execute. -/
def executing (s : State) : List Nat :=
  (s.tasks.mapIdx fun i t => if t.phase = .executing then some i else none).filterMap id

/-- The first task that has finished executing, its outcome, and the world without it. -/
def firstResult? (exec : Executor ω) (w : ω) : List Nat → Option (Nat × Option Outcome × ω)
  | [] => none
  | i :: is =>
      match exec.result? i w with
      | some (outcome?, w) => some (i, outcome?, w)
      | none => firstResult? exec w is

/-- A task that has finished executing: the world goes on if there is none yet.  If there is none
even then, the executor of the first task is taken for dead. -/
def awaitResult (exec : Executor ω) (w : ω) (i : Nat) (is : List Nat) :
    Nat × Option Outcome × ω :=
  match firstResult? exec w (i :: is) with
  | some found => found
  | none =>
      let w := exec.proceed w
      (firstResult? exec w (i :: is)).getD (i, none, w)

/-- The state and the world after the preferred action. -/
def advance? (exec : Executor ω) (s : State) (w : ω) : Option (State × ω) :=
  let found := (candidates s).findSome? fun a => (act s a).map fun s' => (s', worldAfter exec s w a)
  match found, executing s with
  | some next, _ => some next
  | none, [] => none
  | none, i :: is =>
      let (i, outcome?, w) := awaitResult exec w i is
      (act s (.execute i outcome?)).map (·, w)

/-- Advance, at most so many times. -/
def advanceUpTo (exec : Executor ω) : Nat → State → ω → State × ω
  | 0, s, w => (s, w)
  | n + 1, s, w =>
      match advance? exec s w with
      | some (s, w) => advanceUpTo exec n s w
      | none => (s, w)

/-- How many actions a run of so many jobs takes: six for each, and two of the
coordinator's at the end. -/
def runLength (jobs : Nat) : Nat := 6 * jobs + 2

/-- Run all jobs: the results in the order in which they arrive, and the world afterwards. -/
def run (exec : Executor ω) (size : Nat) (jobs : List Job) (w : ω) : List JobResult × ω :=
  let (s, w) := advanceUpTo exec (runLength jobs.length) (.initial jobs size) w
  (s.delivered, w)

end Pool

end SkipAudit
