/-
The directory of processes: what the file system tells of every process.
-/
import SkipAudit.Process.State

namespace SkipAudit

namespace System

/-- What is kept of an entry of the directory of processes; the numbers are apart from those of
all other entries. -/
def noted (mode : Nat) (pid index : Nat) : Attributes :=
  ⟨Natural.tenTo 9 + pid * Natural.tenTo 4 + index, mode, 0, 0, 0, 0, 0⟩

/-- The number of a pipe as an entry. -/
def pipeIdentity (number : Nat) : Nat := 2 * Natural.tenTo 9 + number

/-- How a link to a pipe reads. -/
def pipeName (number : Nat) : Octets :=
  text "pipe:[" ++ Text.ofNat (Natural.tenTo 5 + number) ++ [']']

/-- The permissions of a link to an open file. -/
def linkMode (m : OpenMode) : Nat :=
  (if m.reads then 0o500 else 0) ||| (if m.writes then 0o300 else 0)

/-- The entry for a descriptor of a process. -/
def descriptorEntry (s : System) (pid fd : Nat) (f : OpenFile) : Entry :=
  let a := noted (linkMode f.mode) pid (1000 + fd)
  let named := Entry.link a (FileSystem.pathTo f.place).written
  match f.channel with
  | .file identity =>
      match s.world.fs.root.find? FileSystem.topAttributes f.place with
      | some (.file d) =>
          if d.identity = identity then named
          else .device { a with identity } (.descriptor pid fd false
            ((FileSystem.pathTo f.place).written ++ text " (deleted)"))
      | _ => .device { a with identity } (.descriptor pid fd false
          ((FileSystem.pathTo f.place).written ++ text " (deleted)"))
  | .directory | .device _ => named
  | .fromPipe n | .intoPipe n | .throughPipe n =>
      if f.place ≠ [] then named
      else .device { a with identity := pipeIdentity n } (.descriptor pid fd true (pipeName n))
  | .collector n =>
      .device { a with identity := pipeIdentity n } (.descriptor pid fd true (pipeName n))

/-- The descriptors of a process. -/
def descriptorListing (s : System) (p : Process) : Listing :=
  let fds := p.descriptors.mergeSort fun a b => a.number ≤ b.number
  .ofEntries (fds.filterMap fun d =>
    (s.file? d.file).map fun f => (Text.ofNat d.number, s.descriptorEntry p.pid d.number f))

/-- Texts, each with the character of number zero behind it. -/
def nulTerminated (ts : List Octets) : Octets := ts.flatMap (· ++ [Octets.nul])

/-- How much of a name is kept. -/
def shortName (name : Octets) : Octets := name.take 15

/-- A file among those that tell of a process. -/
def note (pid index : Nat) (mode : Nat) (t : Octets) : Entry :=
  .file { noted mode pid index with bytes := Octets.toBytes t }

/-- Numbers between blanks. -/
def spaced (ns : List Int) : Octets :=
  (List.intersperse [' '] (ns.map fun n =>
    if n < 0 then '-' :: Text.ofNat n.natAbs else Text.ofNat n.natAbs)).flatten

/-- The state of a process on one line. -/
def stateLine (p : Process) : Octets :=
  Text.ofNat p.pid ++ text " (" ++ shortName p.calling.name ++ text ") " ++
    (if p.isStopped then ['T'] else if p.isWaiting then ['S'] else ['R']) ++ [' '] ++
    spaced ([(p.parent : Int), p.group, starter, 0, -1, 4194304, 0, 0, 0, 0, 0, 0, 0, 0,
      20 + p.niceness, p.niceness, 1, 0] ++ List.replicate 32 0) ++ ['\n']
where
  /-- The leader of the session. -/
  starter : Int := starterPid

/-- A number in base eight with four digits. -/
def fourOctal (n : Nat) : Octets :=
  let ds := Nat.toDigits 8 n
  List.replicate (4 - ds.length) '0' ++ ds

/-- The state of a process on many lines. -/
def stateLines (p : Process) : Octets :=
  let line (name : String) (value : Octets) : Octets :=
    text name ++ text ":\t" ++ value ++ ['\n']
  line "Name" (shortName p.calling.name) ++
    line "Umask" (fourOctal p.mask) ++
    line "State" (text (if p.isStopped then "T (stopped)" else if p.isWaiting then "S (sleeping)"
      else "R (running)")) ++
    line "Tgid" (Text.ofNat p.pid) ++ line "Ngid" ['0'] ++ line "Pid" (Text.ofNat p.pid) ++
    line "PPid" (Text.ofNat p.parent) ++ line "TracerPid" ['0'] ++
    line "Uid" (text "0\t0\t0\t0") ++ line "Gid" (text "0\t0\t0\t0") ++
    line "Threads" ['1']

/-- What is told of a process. -/
def processEntry (s : System) (p : Process) : Entry :=
  let pid := p.pid
  let c := p.calling
  .dir (noted 0o555 pid 0) (.ofEntries
    [(text "cmdline", note pid 1 0o444 (nulTerminated c.arguments)),
     (text "comm", note pid 2 0o644 (shortName c.name ++ ['\n'])),
     (text "cwd", .link (noted 0o777 pid 3) (FileSystem.pathTo p.cwd).written),
     (text "environ", note pid 4 0o400 (nulTerminated c.environment)),
     (text "exe", .link (noted 0o777 pid 5) (FileSystem.pathTo c.place).written),
     (text "fd", .dir (noted 0o500 pid 6) (s.descriptorListing p)),
     (text "root", .link (noted 0o777 pid 7) ['/']),
     (text "stat", note pid 8 0o444 (stateLine p)),
     (text "status", note pid 9 0o444 (stateLines p))])

/-- What is told of a process of which no more is known than that it is there. -/
def bareEntry (pid : Nat) : Entry :=
  .dir (noted 0o555 pid 0) (.ofEntries [(text "cmdline", note pid 1 0o444 [])])

/-- The directory of processes, as one of them sees it. -/
def processListing (s : System) (viewer : Process) : Listing :=
  .ofEntries (
    [initPid, starterPid].map (fun pid => (Text.ofNat pid, bareEntry pid)) ++
    s.processes.map (fun p => (Text.ofNat p.pid, s.processEntry p)) ++
    s.ended.map (fun e => (Text.ofNat e.pid, bareEntry e.pid)) ++
    [(text "self", .link (noted 0o777 0 1) (Text.ofNat viewer.pid)),
     (text "thread-self", .link (noted 0o777 0 2) (Text.ofNat viewer.pid)),
     (text "uptime", note 0 3 0o444 (text "1000.00 1000.00\n")),
     (text "loadavg", note 0 4 0o444 (text "0.00 0.00 0.00 1/100 4000\n"))])

end System

end SkipAudit
