/-
The state of the system in which processes live.

It has a world, a clock in microseconds, the live processes with what they have open, and
what is known of those that have ended.
-/
import SkipAudit.Process.Channel
import SkipAudit.Process.World

namespace SkipAudit

/-- A number under which a process has an open file. -/
structure Descriptor where
  number : Nat
  file : Nat
  /-- It is closed when the process becomes another program. -/
  isPrivate : Bool
deriving DecidableEq, Repr

/-- Which program a process is, and how that was called. -/
structure Calling where
  /-- The name of the file that was executed. -/
  name : Octets
  arguments : List Octets
  environment : List Octets
  /-- The machine program: where it stands, and its number. -/
  place : List Name
  identity : Nat
deriving DecidableEq, Repr

/-- An opening that waits for somebody at the other end. -/
structure Opening where
  descriptor : Nat
  /-- How often the other end had been opened when it began. -/
  others : Nat
deriving DecidableEq, Repr

/-- A live process. -/
structure Process where
  pid : Nat
  parent : Nat
  /-- The number of the process that leads its group. -/
  group : Nat
  calling : Calling
  next : Proc
  descriptors : List Descriptor
  cwd : List Name
  /-- The permissions that new entries do not get. -/
  mask : Nat
  /-- By how much it takes second place to others. -/
  niceness : Int
  limits : List Limit
  handlings : List (Nat × Handling)
  /-- The signals that it caught and does not know of yet. -/
  caught : List Nat
  opening? : Option Opening
  /-- The time from which on it can go on. -/
  wake : Nat
  /-- It can only go on when something happens to it. -/
  isWaiting : Bool
  isStopped : Bool
  /-- How long it has been busy since it last waited for a time to come, in microseconds. -/
  effort : Nat
  /-- How long it has been busy in all. -/
  used : Nat

/-- A process that has ended, and whose parent has not asked for it yet. -/
structure EndedProcess where
  parent : Nat
  pid : Nat
  ending : Ending
deriving DecidableEq, Repr

/-- A program that was started from outside. -/
structure Execution where
  number : Nat
  pid : Nat
  /-- When it has to be over. -/
  deadline : Option Nat
  /-- The collectors of its output and of its diagnostics. -/
  output : Nat
  diagnostics : Nat
  ending? : Option Ending
deriving DecidableEq, Repr

/-- A system. -/
structure System where
  world : World
  /-- Microseconds since the start. -/
  clock : Nat
  processes : List Process
  ended : List EndedProcess
  executions : List Execution
  files : List OpenFile
  pipes : List Pipe
  collectors : List Collector
  /-- Files that have no name any more and are still open. -/
  nameless : List FileData
  /-- The numbers of the files that whoever starts programs has open to write to. -/
  written : List Nat
  /-- The next number for an open file, a pipe or a collector. -/
  nextNumber : Nat
  nextPid : Nat

namespace Process

/-- What a process does with a signal. -/
def handlingOf (p : Process) (signal : Nat) : Handling :=
  (p.handlings.lookup signal).getD .byDefault

/-- The process taking a signal in another way. -/
def withHandling (p : Process) (signal : Nat) (h : Handling) : Process :=
  { p with handlings := (signal, h) :: p.handlings.filter (·.1 != signal) }

/-- The number of the open file behind a descriptor. -/
def fileAt? (p : Process) (fd : Nat) : Option Nat :=
  (p.descriptors.find? (·.number == fd)).map (·.file)

/-- The lowest descriptor from a number on that is not open. -/
def freeDescriptor (p : Process) (least : Nat) : Nat :=
  let taken := p.descriptors.map (·.number)
  ((List.range (taken.length + 1)).map (least + ·)).find? (!taken.contains ·) |>.getD least

/-- The process with a descriptor that leads to an open file. -/
def withDescriptor (p : Process) (fd file : Nat) (isPrivate : Bool) : Process :=
  { p with descriptors := ⟨fd, file, isPrivate⟩ :: p.descriptors.filter (·.number != fd) }

/-- The process without a descriptor. -/
def withoutDescriptor (p : Process) (fd : Nat) : Process :=
  { p with descriptors := p.descriptors.filter (·.number != fd) }

/-- How much of a resource a process may use, if that is limited. -/
def limit? (p : Process) (resource : Char) : Option Nat :=
  (p.limits.find? (·.resource == resource)).bind (·.soft)

/-- The process with another limit. -/
def withLimit (p : Process) (l : Limit) : Process :=
  { p with limits := p.limits.map fun k => if k.resource = l.resource then l else k }

/-- The process may have so large a descriptor. -/
def mayHave (p : Process) (fd : Nat) : Bool :=
  match p.limit? 'n' with
  | some n => fd < n
  | none => true

end Process

namespace System

/-- A system in which no process runs. -/
def idle (w : World) : System :=
  { world := w, clock := 0, processes := [], ended := [], executions := [], files := [], pipes := []
    collectors := [], nameless := [], written := [], nextNumber := 1, nextPid := 4001 }

/-- The number of the process that starts the others. -/
def starterPid : Nat := 4000

/-- The number of the process that takes charge of those whose parent has ended. -/
def initPid : Nat := 1

/-! ## Processes -/

/-- The live process with a number. -/
def process? (s : System) (pid : Nat) : Option Process := s.processes.find? (·.pid == pid)

/-- Put the new state of a process in the place of the old one. -/
def setProcess (s : System) (p : Process) : System :=
  { s with processes := s.processes.map fun q => if q.pid = p.pid then p else q }

/-- Change a process. -/
def modifyProcess (s : System) (pid : Nat) (f : Process → Process) : System :=
  { s with processes := s.processes.map fun q => if q.pid = pid then f q else q }

/-- Let those who wait for something see whether it has happened. -/
def stir (s : System) : System :=
  if s.processes.any (·.isWaiting) then
    { s with processes := s.processes.map fun p =>
        if p.isWaiting then { p with isWaiting := false, wake := max p.wake s.clock } else p }
  else s

/-! ## Open files -/

/-- The open file with a number. -/
def file? (s : System) (number : Nat) : Option OpenFile := s.files.find? (·.number == number)

/-- The open file behind a descriptor of a process. -/
def opened? (s : System) (p : Process) (fd : Nat) : Option OpenFile := do
  s.file? (← p.fileAt? fd)

/-- Put the new state of an open file in the place of the old one. -/
def setFile (s : System) (f : OpenFile) : System :=
  { s with files := s.files.map fun g => if g.number = f.number then f else g }

/-- Some process has an open file. -/
def isHeld (s : System) (number : Nat) : Bool :=
  s.processes.any fun p => p.descriptors.any (·.file == number)

/-- Some process has an open file that leads to a channel. -/
def isReached (s : System) (c : Channel) : Bool :=
  s.files.any fun f => f.channel == c && s.isHeld f.number

/-- Somebody can read from a pipe. -/
def hasReader (s : System) (pipe : Nat) : Bool :=
  s.isReached (.fromPipe pipe) || s.isReached (.throughPipe pipe)

/-- Somebody can write to a pipe. -/
def hasWriter (s : System) (pipe : Nat) : Bool :=
  s.isReached (.intoPipe pipe) || s.isReached (.throughPipe pipe)

/-- Somebody has a file open to write to. -/
def isWritten (s : System) (identity : Nat) : Bool :=
  s.written.contains identity ||
    s.files.any fun f => f.channel == .file identity && f.mode.writes && s.isHeld f.number

end System

end SkipAudit
