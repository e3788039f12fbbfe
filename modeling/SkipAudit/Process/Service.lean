/-
How the system answers the requests of a process.

A request is answered at once, or the process has to wait and asks again later, or the process
becomes another program.  What a process asks for happens to the system as it is at that
moment, and nothing else happens in between.
-/
import SkipAudit.Process.System

namespace SkipAudit

/-- Makes a process of a machine program, its arguments and its variables. -/
abbrev Loader := Name → List Octets → List Octets → Proc

/-- What comes of a request. -/
inductive Service (α : Type) where
  | answer (a : α) (s : System)
  /-- It cannot be answered before something happens, or a time has come. -/
  | wait (until? : Option Nat)
  /-- Nor can this one, and it has changed something. -/
  | hold (s : System)
  | become (p : Proc) (s : System)

namespace System

/-- Answer, or wait, unless the process has caught a signal. -/
def answerOrWait {α : Type} (s : System) (p : Process) (found? : Option (α × System)) :
    Service (Waiting α) :=
  match found? with
  | some (a, s) => .answer (.done a) s
  | none => if p.caught = [] then .wait none else .answer .interrupted s

/-! ## Reading and writing -/

/-- Bytes without any order, from some place on. -/
def disorder : Nat → Nat → Octets
  | 0, _ => []
  | n + 1, seed =>
      let next := (seed * 6364136223846793005 + 1442695040888963407) % Natural.twoTo 64
      Char.ofNat (next / Natural.twoTo 56) :: disorder n next

/-- Read from a pipe; nothing if it is empty and somebody may still write to it.  Those who wait
to write may go on when there is room for more. -/
def readPipe (s : System) (n limit : Nat) : Option (Except FileError Octets × System) :=
  match s.pipes.find? (·.number == n) with
  | none => some (.ok [], s)
  | some pipe =>
      if pipe.size = 0 then if s.hasWriter n then none else some (.ok [], s)
      else
        let (bytes, rest) := pipe.take limit
        let s : System :=
          { s with pipes := s.pipes.map fun q => if q.number = n then rest else q }
        some (.ok bytes, if rest.room = pipe.room then s else s.stir)

/-- Read from an open file; nothing if it is not known yet what there is to read. -/
def readFrom (s : System) (f : OpenFile) (limit : Nat) :
    Option (Except FileError Octets × System) :=
  if f.mode.reads = false then some (.error .badDescriptor, s)
  else match f.channel with
    | .file identity =>
        let bytes := ((s.contents identity).drop f.offset).take limit
        let s := s.noteReading identity
        some (.ok (Octets.ofBytes bytes), s.setFile { f with offset := f.offset + bytes.length })
    | .directory => some (.error .isDirectory, s)
    | .device .zero | .device .full => some (.ok (List.replicate limit Octets.nul), s)
    | .device .random =>
        let count := min limit (Natural.twoTo 16)
        some (.ok (disorder count (s.clock + f.offset + f.number)),
          s.setFile { f with offset := f.offset + count })
    | .device _ => some (.ok [], s)
    | .fromPipe n | .throughPipe n => s.readPipe n limit
    | .intoPipe _ | .collector _ => some (.error .badDescriptor, s)

/-- The bytes of a file after some were written at an offset; a gap is filled with zeros. -/
def overwritten (old : List UInt8) (offset : Nat) (new : List UInt8) : List UInt8 :=
  let before := old.take offset
  before ++ List.replicate (offset - before.length) 0 ++ new ++ old.drop (offset + new.length)

/-- The answer to one who writes where nobody reads: the signal comes first. -/
def refuseWriting (s : System) (p : Process) : Except FileError Nat × System :=
  (.error .brokenPipe, s.signal p.pid Signal.ofPipe)

/-- Write to a regular file, as far as the process may have it grow. -/
def writeFile (s : System) (p : Process) (f : OpenFile) (identity : Nat) (bytes : Octets) :
    Except FileError Nat × System :=
  let old := s.contents identity
  let offset := if f.mode.appends then old.length else f.offset
  let room? := (p.limit? 'f').map (· - offset)
  if room? = some 0 && bytes ≠ [] then (.error .tooLarge, s.signal p.pid Signal.ofSize)
  else
    let new := Octets.toBytes (match room? with
      | some room => bytes.take room
      | none => bytes)
    let s := if new = [] then s else s.rewrite identity (overwritten old offset new)
    (.ok new.length, s.setFile { f with offset := offset + new.length })

/-- Write to a pipe; nothing if there is no room yet. -/
def writePipe (s : System) (p : Process) (n : Nat) (bytes : Octets) :
    Option (Except FileError Nat × System) :=
  if s.hasReader n = false then some (s.refuseWriting p)
  else match s.pipes.find? (·.number == n) with
    | none => some (s.refuseWriting p)
    | some pipe => (pipe.accepts bytes).map fun count =>
        let pipe := pipe.push (bytes.take count)
        (.ok count, { s with
          pipes := s.pipes.map fun q => if q.number = n then pipe else q })

/-- Write to an open file; nothing if there is no room yet. -/
def writeInto (s : System) (p : Process) (f : OpenFile) (bytes : Octets) :
    Option (Except FileError Nat × System) :=
  if f.mode.writes = false then some (.error .badDescriptor, s)
  else match f.channel with
    | .file identity => some (s.writeFile p f identity bytes)
    | .directory => some (.error .badDescriptor, s)
    | .device .full => some (.error .noSpace, s)
    | .device _ => some (.ok bytes.length, s)
    | .intoPipe n | .throughPipe n => s.writePipe p n bytes
    | .collector n =>
        match s.collectors.find? (·.number == n) with
        | none => some (s.refuseWriting p)
        | some c =>
            if c.closed then some (s.refuseWriting p)
            else
              some (.ok bytes.length, { s with
                collectors := s.collectors.map fun d => if d.number = n then d.add bytes else d })
    | .fromPipe _ => some (.error .badDescriptor, s)

/-- Go on somewhere else in an open file. -/
def seek (s : System) (f : OpenFile) (origin : Origin) (offset : Int) :
    Except FileError Nat × System :=
  match f.channel with
  | .fromPipe _ | .intoPipe _ | .throughPipe _ | .collector _ => (.error .illegalSeek, s)
  | .directory => (.ok 0, s.setFile { f with offset := offset.toNat })
  | .device _ => (.ok 0, s)
  | .file identity =>
      let base : Int := match origin with
        | .start => 0
        | .here => f.offset
        | .finish => (s.contents identity).length
      if base + offset < 0 then (.error .invalidArgument, s)
      else
        let n := (base + offset).toNat
        (.ok n, s.setFile { f with offset := n })

/-! ## Opening -/

/-- Open for a process what some process has open already, once more. -/
def reopen (s : System) (p : Process) (owner number fd : Nat) (mode : OpenMode) :
    Except FileError Nat × System :=
  match (s.process? owner).bind fun q => s.opened? q number with
  | none => (.error .notFound, s)
  | some f =>
      match f.channel with
      | .file identity =>
          let s := if mode.empties then s.rewrite identity [] else s
          (.ok fd, s.grant p.pid fd f.channel f.place mode)
      | .fromPipe n | .intoPipe n | .throughPipe n =>
          let c : Channel := if mode.reads && mode.writes then .throughPipe n
            else if mode.writes then .intoPipe n else .fromPipe n
          (.ok fd, s.grant p.pid fd c f.place mode)
      | c => (.ok fd, s.grant p.pid fd c f.place mode)

/-- What comes of an opening that has come to something. -/
def opened (r : Except FileError Nat × System) : Service (Waiting (Except FileError Nat)) :=
  .answer (.done r.1) r.2

/-- The pipe that stands behind an entry. -/
def pipeBehind (s : System) (identity : Nat) : Pipe × System :=
  match s.pipes.find? (·.fifo? == some identity) with
  | some pipe => (pipe, s)
  | none =>
      let pipe := Pipe.empty s.nextNumber (some identity)
      (pipe, { s with pipes := pipe :: s.pipes, nextNumber := s.nextNumber + 1 })

/-- Open a pipe that has an entry: who opens one end waits until the other one is opened. -/
def openEntryPipe (s : System) (p : Process) (place : List Name) (identity fd : Nat)
    (mode : OpenMode) : Service (Waiting (Except FileError Nat)) :=
  match p.opening? with
  | some o =>
      let (pipe, s) := s.pipeBehind identity
      let isMet := if mode.writes then s.hasReader pipe.number || pipe.readers ≠ o.others
        else s.hasWriter pipe.number || pipe.writers ≠ o.others
      if isMet then opened (.ok o.descriptor, s.setProcess { p with opening? := none })
      else if p.caught = [] then .wait none
      else
        .answer .interrupted
          ((s.setProcess ({ p with opening? := none }.withoutDescriptor o.descriptor)).sweep)
  | none =>
      let (pipe, s) := s.pipeBehind identity
      let n := pipe.number
      let pipe := { pipe with
        readers := pipe.readers + if mode.reads then 1 else 0
        writers := pipe.writers + if mode.writes then 1 else 0 }
      let s : System :=
        { s with pipes := s.pipes.map fun q => if q.number = n then pipe else q }
      if mode.reads && mode.writes then
        opened (.ok fd, s.grant p.pid fd (.throughPipe n) place mode)
      else
        let isMet := if mode.writes then s.hasReader n else s.hasWriter n
        let c : Channel := if mode.writes then .intoPipe n else .fromPipe n
        let s := s.grant p.pid fd c place mode
        if isMet then opened (.ok fd, s)
        else .hold (s.modifyProcess p.pid ({ · with
          opening? := some ⟨fd, if mode.writes then pipe.readers else pipe.writers⟩ }))

/-- Keep a file that tells of a process as it is now, as long as it is open: such files are made
whenever somebody looks. -/
def heldApart (s : System) (place : List Name) (d : FileData) : System :=
  if place.head? = some FileSystem.processesName then
    { s with nameless := d :: s.nameless.filter (·.identity != d.identity) }
  else s

/-- Open a file for a process. -/
def openAt (s : System) (p : Process) (path : Path) (mode : OpenMode) :
    Service (Waiting (Except FileError Nat)) :=
  let fs := s.filesFor p
  let fd := p.freeDescriptor 0
  let refuse (e : FileError) := opened (.error e, s)
  let grant (s : System) (c : Channel) (place : List Name) :=
    opened (.ok fd, s.grant p.pid fd c place mode)
  if p.opening?.isNone && p.mayHave fd = false then refuse .tooManyFiles
  else match if mode.creates then fs.locateForWriting path else fs.locate true path with
  | .error e => refuse e
  | .ok (.taken place e) =>
      if mode.onlyNew then refuse .alreadyExists
      else match e with
        | .file d =>
            if mode.writes && s.processes.any (·.calling.identity == d.identity) then
              refuse .textBusy
            else
              let s := s.heldApart place d
              grant (if mode.empties then s.rewrite d.identity [] else s) (.file d.identity) place
        | .dir .. => if mode.writes then refuse .isDirectory else grant s .directory place
        | .device _ .terminal => refuse .noDevice
        | .device _ (.descriptor owner n _ _) => opened (s.reopen p owner n fd mode)
        | .device a .fifo => s.openEntryPipe p place a.identity fd mode
        | .device _ k => grant s (.device k) place
        | .link .. => refuse .notFound
  | .ok (.free dir n _) =>
      if mode.creates then
        let place := dir ++ [n]
        grant (s.withFiles (fs.addFile place [] mode.permissions)) (.file fs.next) place
      else refuse .notFound

/-- Open a pipe for a process. -/
def openPipe (s : System) (p : Process) : Except FileError (Nat × Nat) × System :=
  let n := s.nextNumber
  let source := p.freeDescriptor 0
  let sink := (p.withDescriptor source n false).freeDescriptor 0
  if p.mayHave source && p.mayHave sink then
    let s : System := { s with pipes := .empty n none :: s.pipes, nextNumber := n + 1 }
    let s := s.grant p.pid source (.fromPipe n) [] .reading
    (.ok (source, sink), s.grant p.pid sink (.intoPipe n) [] .appending)
  else (.error .tooManyFiles, s)

/-- Let a descriptor lead where another one leads.  One that is made beyond a least number is the
process' own, and has a cause why it is refused if it would be too large. -/
def duplicate (s : System) (p : Process) (fd target : Nat) (refusal? : Option FileError) :
    Except FileError Unit × System :=
  match p.fileAt? fd with
  | none => (.error .badDescriptor, s)
  | some n =>
      if p.mayHave target = false then
        (.error (refusal?.getD .badDescriptor), s)
      else (.ok (), if fd = target then s
        else (s.setProcess (p.withDescriptor target n refusal?.isSome)).sweep)

/-! ## Other processes -/

/-- Ask for a child that has ended. -/
def waitFor (s : System) (p : Process) (patiently : Bool) : Service Waited :=
  match s.ended.find? (·.parent == p.pid) with
  | some e => .answer (.child ⟨e.pid, e.ending⟩) { s with ended := s.ended.erase e }
  | none =>
      if patiently && s.processes.any (·.parent == p.pid) then
        if p.caught = [] then .wait none else .answer .interrupted s
      else .answer .nothing s

/-- Send a signal to the processes of a group; the signal zero only asks for them. -/
def sendToGroup (s : System) (group n : Nat) : Except FileError Unit × System :=
  match s.processes.filter (·.group == group) with
  | [] => (.error .noProcess, s)
  | ps => (.ok (), if n = 0 then s else ps.foldl (fun s p => s.signal p.pid n) s)

/-- Send a signal to a process, if there is such a process; the signal zero only asks for it. -/
def sendToProcess (s : System) (pid n : Nat) : Except FileError Unit × System :=
  if (s.process? pid).isSome then (.ok (), if n = 0 then s else s.signal pid n)
  else if s.ended.any (·.pid == pid) || pid == starterPid || pid == initPid then (.ok (), s)
  else (.error .noProcess, s)

/-- Send a signal to whom a process means by a number. -/
def sendSignal (s : System) (p : Process) (target : Int) (n : Nat) :
    Except FileError Unit × System :=
  if 0 < target then s.sendToProcess target.toNat n
  else if target = 0 then s.sendToGroup p.group n
  else s.sendToGroup (-target).toNat n

/-- What an open file is. -/
def describe (f : OpenFile) : Opened :=
  match f.channel with
  | .file identity => .file identity
  | .directory => .directory
  | .fromPipe _ | .intoPipe _ | .throughPipe _ | .collector _ => .pipe
  | .device k => .device k

/-- The last piece of a path. -/
def lastPiece (path : Octets) : Octets := (Text.cutAt '/' path).getLastD []

/-- Turn a process into another program, with the signals that it ignores. -/
def execute (load : Loader) (s : System) (p : Process) (path : Octets)
    (arguments environment : List Octets) : Service FileError :=
  let w := { s.world with fs := s.filesFor p }
  match (do
    w.image s.isWritten path (← w.programAt s.isWritten (Path.mk path)) arguments environment) with
  | .error e => .answer e s
  | .ok image =>
      let place := match w.fs.locate true (Path.mk image.path) with
        | .ok (.taken place _) => place
        | _ => []
      let s := s.setProcess { p with
        calling := ⟨lastPiece path, image.arguments, environment, place, image.identity⟩
        descriptors := p.descriptors.filter (!·.isPrivate)
        handlings := p.handlings.filter (·.2 == .ignored), caught := [] }
      .become (load image.program image.arguments environment) s.sweep

/-- Take second place to others by more, within what there is. -/
def giveWay (p : Process) (more : Int) : Int := max (-20) (min 19 (p.niceness + more))

/-! ## Every request -/

/-- Answer a request of a process. -/
def serve (load : Loader) (s : System) (p : Process) : (r : Request) → Service r.Answer
  | .read fd limit =>
      match s.opened? p fd with
      | none => .answer (.done (.error .badDescriptor)) s
      | some f => s.answerOrWait p (s.readFrom f limit)
  | .write fd bytes =>
      match s.opened? p fd with
      | none => .answer (.done (.error .badDescriptor)) s
      | some f => s.answerOrWait p (s.writeInto p f bytes)
  | .openFile path mode => s.openAt p (Path.mk path) mode
  | .close fd => .answer () (s.close p fd)
  | .duplicate fd target =>
      let (a, s) := s.duplicate p fd target none
      .answer a s
  | .duplicateFrom fd least =>
      let target := p.freeDescriptor least
      let cause := if p.mayHave least then FileError.tooManyFiles else .invalidArgument
      let (a, s) := s.duplicate p fd target (some cause)
      .answer (a.map fun _ => target) s
  | .pipe =>
      let (a, s) := s.openPipe p
      .answer a s
  | .wait patiently => s.waitFor p patiently
  | .kill target n =>
      let (a, s) := s.sendSignal p target n
      .answer a s
  | .leadGroup => .answer () (s.setProcess { p with group := p.pid })
  | .handle n h => .answer (p.handlingOf n) (s.setProcess (p.withHandling n h))
  | .takeSignals => .answer p.caught (s.setProcess { p with caught := [] })
  | .sleepUntil t =>
      if t ≤ s.clock then .answer (.done ()) s
      else if p.caught = [] then .wait (some t)
      else .answer .interrupted s
  | .clock => .answer s.clock s
  | .numbers => .answer (p.pid, p.parent) s
  | .look => .answer (s.filesFor p) s
  | .amend deed =>
      let (fs, report) := deed (s.filesFor p)
      .answer report (s.withFiles fs)
  | .changeDirectory path =>
      match (s.filesFor p).locate true (Path.mk path) with
      | .error e => .answer (.error e) s
      | .ok (.taken names (.dir ..)) => .answer (.ok ()) (s.setProcess { p with cwd := names })
      | .ok (.taken ..) => .answer (.error .notDirectory) s
      | .ok (.free ..) => .answer (.error .notFound) s
  | .seek fd origin offset =>
      match s.opened? p fd with
      | none => .answer (.error .badDescriptor) s
      | some f =>
          let (a, s) := s.seek f origin offset
          .answer a s
  | .withhold mask? =>
      .answer p.mask (match mask? with
        | some mask => s.setProcess { p with mask := mask % Natural.twoTo 9 }
        | none => s)
  | .giveWay more =>
      let niceness := giveWay p more
      .answer niceness (s.setProcess { p with niceness })
  | .limits => .answer p.limits s
  | .setLimit l => .answer () (s.setProcess (p.withLimit l))
  | .inspect fd => .answer ((s.opened? p fd).map describe) s
  | .execute path arguments environment => s.execute load p path arguments environment
  | .tick => .answer () s

end System

end SkipAudit
