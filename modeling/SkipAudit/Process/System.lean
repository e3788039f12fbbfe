/-
What happens to the system from inside: files are opened and closed, signals arrive, processes
end.
-/
import SkipAudit.Process.Directory

namespace SkipAudit.System

/-! ## Open files -/

/-- Forget open files that no process has any more. -/
def sweep (s : System) : System :=
  let files := s.files.filter fun f => s.isHeld f.number
  if files.length = s.files.length then s
  else
    { s with
      files
      pipes := s.pipes.filter fun p => files.any fun f =>
        [.fromPipe p.number, .intoPipe p.number, .throughPipe p.number].contains f.channel
      nameless := s.nameless.filter fun d => files.any (·.channel == .file d.identity) }

/-- Open a file for a process, under a descriptor; `place` is where it was found. -/
def grant (s : System) (pid fd : Nat) (c : Channel) (place : List Name) (mode : OpenMode) :
    System :=
  { s with
    files := ⟨s.nextNumber, c, place, 0, mode⟩ :: s.files
    nextNumber := s.nextNumber + 1 }.modifyProcess pid (·.withDescriptor fd s.nextNumber false)

/-- Close a descriptor of a process. -/
def close (s : System) (p : Process) (fd : Nat) : System :=
  match p.fileAt? fd with
  | some _ => (s.setProcess (p.withoutDescriptor fd)).sweep
  | none => s

/-! ## Files by their number -/

/-- The bytes of a file, whether it has a name or not. -/
def contents (s : System) (identity : Nat) : List UInt8 :=
  match s.world.fs.root.fileWith? identity with
  | some d => d.bytes
  | none =>
      match s.nameless.find? (·.identity == identity) with
      | some d => d.bytes
      | none => []

/-- How fine the times of files are, in microseconds. -/
def grain : Nat := 4000

/-- The time at the start of the clock, in seconds since the beginning of 1970. -/
def startSeconds : Nat := 1767225600

/-- Microseconds in a second, and nanoseconds in a microsecond. -/
def perSecond : Nat := 1000000
def perMicrosecond : Nat := 1000

/-- The time that goes with what happens to files now, in nanoseconds since the beginning of
1970. -/
def fileTime (s : System) : Int :=
  ((startSeconds * perSecond + s.clock / grain * grain) * perMicrosecond : Nat)

/-- The file system as it is now, for nobody in particular. -/
def filesNow (s : System) : FileSystem := { s.world.fs with now := s.fileTime }

/-- The world as it is now, for nobody in particular. -/
def worldNow (s : System) : World := { s.world with fs := s.filesNow }

/-- The file system as a process sees it. -/
def filesFor (s : System) (p : Process) : FileSystem :=
  { s.filesNow with cwd := p.cwd, mask := p.mask, processes := fun _ => s.processListing p }

/-- The system with the file system as it is after a deed.  Files that lost their names stay as
long as they are open. -/
def withFiles (s : System) (fs : FileSystem) : System :=
  let lost := s.files.filterMap fun f =>
    match f.channel with
    | .file identity =>
        match fs.root.fileWith? identity with
        | some _ => none
        | none => s.world.fs.root.fileWith? identity
    | _ => none
  let fs : FileSystem :=
    { fs with cwd := s.world.fs.cwd, mask := s.world.fs.mask, processes := s.world.fs.processes }
  { s with world := { s.world with fs }, nameless := lost ++ s.nameless }

/-- Write the bytes of a file anew. -/
def rewrite (s : System) (identity : Nat) (bytes : List UInt8) : System :=
  { s with
    world := { s.world with fs := s.filesNow.rewriteFile identity bytes }
    nameless := s.nameless.map fun d =>
      if d.identity = identity then { d with bytes } else d }

/-- Note that a file was read: the time of that is kept if it was changed since it was last
read, or if that was a day ago. -/
def noteReading (s : System) (identity : Nat) : System :=
  match s.world.fs.root.fileWith? identity with
  | none => s
  | some d =>
      let now := s.fileTime
      let aDay : Int := (86400 * perSecond * perMicrosecond : Nat)
      if d.accessed ≤ d.modified || d.accessed ≤ d.changed || d.accessed + aDay ≤ now then
        let fs := s.world.fs.updateAttributes identity ({ · with accessed := now })
        { s with world := { s.world with fs } }
      else s

/-! ## Signals and ends -/

/-- How long it takes a process to notice a signal, in microseconds. -/
def noticeCost : Nat := 300

/-- Tell a process of a signal that it catches. -/
def tell (s : System) (pid signal : Nat) : System :=
  s.modifyProcess pid fun p =>
    if p.handlingOf signal = .caught then
      { p with
        caught := if p.caught.contains signal then p.caught else p.caught ++ [signal]
        isWaiting := false
        wake := if p.isWaiting then s.clock + noticeCost else min p.wake (s.clock + noticeCost) }
    else p

/-- What a parent is told of the end of a child, or whoever started an execution. -/
def report (s : System) (p : Process) (e : Ending) : System :=
  if s.executions.any (·.pid == p.pid) then
    { s with
      executions := s.executions.map fun x =>
        if x.pid = p.pid ∧ x.ending?.isNone then { x with ending? := some e } else x }
  else if (s.process? p.parent).isSome then
    ({ s with ended := s.ended ++ [⟨p.parent, p.pid, e⟩] } : System).tell p.parent Signal.ofChild
  else s

/-- End a process.  Who started it is told, and its children go to the first process. -/
def endProcess (s : System) (pid : Nat) (e : Ending) : System :=
  match s.process? pid with
  | none => s
  | some p =>
      let alive := s.processes.filter (·.pid != pid)
      let s : System :=
        { s with
          processes := alive.map fun q => if q.parent = pid then { q with parent := initPid } else q
          ended := s.ended.filter (·.parent != pid) }
      (s.report p e).sweep.stir

/-- What a signal does to a process that neither catches nor ignores it. -/
def succumb (s : System) (pid n : Nat) : System :=
  match (Signal.ofNumber? n).map Signal.disposition with
  | some .kills => s.endProcess pid (.killed n)
  | some .stops => s.modifyProcess pid ({ · with isStopped := true })
  | _ => s

/-- Send a signal to a process. -/
def signal (s : System) (pid n : Nat) : System :=
  match s.process? pid with
  | none => s
  | some p =>
      if n = Signal.ofKill then s.endProcess pid (.killed n)
      else if n = Signal.ofStop then s.modifyProcess pid ({ · with isStopped := true })
      else
        let s := if n = Signal.ofResume then s.modifyProcess pid ({ · with isStopped := false })
          else s
        match p.handlingOf n with
        | .ignored => s
        | .caught => s.tell pid n
        | .byDefault => s.succumb pid n

end SkipAudit.System
