/-
Processes, as what they ask of the system.

A `Proc` is a process from now on: it has ended, or it makes a request and goes on with the
answer, or it splits in two.  The system that answers is elsewhere, so a process is no more
than a tree of requests, with a branch for every answer.  `Action` is the writing of such
trees one request after the other.
-/
import SkipAudit.FileSystem.Names
import SkipAudit.Number.Natural
import SkipAudit.Process.Signal
import SkipAudit.Text.Octets

namespace SkipAudit

/-! ## Requests -/

/-- In which way a file is opened. -/
structure OpenMode where
  reads : Bool
  writes : Bool
  /-- A file that is not there is made. -/
  creates : Bool
  /-- A file that is there loses its bytes. -/
  empties : Bool
  /-- Whatever is written goes to the end. -/
  appends : Bool
  /-- A file that is there is left alone. -/
  onlyNew : Bool
  /-- The permissions of a file that is made, before some are taken away. -/
  permissions : Nat
deriving DecidableEq, Repr

namespace OpenMode

def reading : OpenMode := ⟨true, false, false, false, false, false, 0⟩
def writing : OpenMode := ⟨false, true, true, true, false, false, FileSystem.fileMode⟩
def appending : OpenMode := ⟨false, true, true, false, true, false, FileSystem.fileMode⟩
def both : OpenMode := ⟨true, true, true, false, false, false, FileSystem.fileMode⟩
def writingNew : OpenMode := ⟨false, true, true, false, false, true, FileSystem.fileMode⟩
/-- To write into what is there, and to leave alone what else it holds. -/
def changing : OpenMode := ⟨false, true, false, false, false, false, 0⟩

end OpenMode

/-- How a process takes a signal. -/
inductive Handling where
  | byDefault
  | ignored
  /-- The process is told of it, and does what it wants. -/
  | caught
deriving DecidableEq, Repr

/-- The two streams that a program writes to. -/
inductive Stream where
  | output
  | errors
deriving DecidableEq, Repr

/-- The descriptor of a stream. -/
def Stream.descriptor : Stream → Nat
  | .output => 1
  | .errors => 2

/-- What a deed comes to: an exit status, and what is to be written, in order. -/
structure Report where
  status : Nat
  writes : List (Stream × Octets)
deriving DecidableEq, Repr

/-- A child that has ended. -/
structure EndedChild where
  pid : Nat
  ending : Ending
deriving DecidableEq, Repr

/-- What waiting for a child comes to. -/
inductive Waited where
  | child (c : EndedChild)
  /-- There is no child to wait for, or none has ended and the process would not wait. -/
  | nothing
  /-- A signal came first. -/
  | interrupted
deriving DecidableEq, Repr

/-- What something that takes time comes to. -/
inductive Waiting (α : Type) where
  | done (a : α)
  | interrupted

/-- What a descriptor leads to. -/
inductive Opened where
  /-- A regular file, by its number. -/
  | file (identity : Nat)
  | directory
  | pipe
  | device (kind : Device)
deriving DecidableEq, Repr

/-- Where a position in a file is counted from. -/
inductive Origin where
  | start
  | here
  | finish
deriving DecidableEq, Repr

/-- How much of a resource a process may use: the limit that counts, and the one up to which
that may be raised; none where there is no limit. -/
structure Limit where
  resource : Char
  soft : Option Nat
  hard : Option Nat
deriving DecidableEq, Repr

/-- A request. -/
inductive Request where
  /-- Read at most so many bytes; none are there only at the end. -/
  | read (fd limit : Nat)
  /-- Write bytes; the answer is how many were taken. -/
  | write (fd : Nat) (bytes : Octets)
  | openFile (path : Octets) (mode : OpenMode)
  | close (fd : Nat)
  /-- Open a second descriptor for the same file, in the place of another. -/
  | duplicate (fd target : Nat)
  /-- Open a second descriptor for the same file, from a number on; it is closed when the
  process becomes another program. -/
  | duplicateFrom (fd least : Nat)
  /-- Open a pipe: the end to read from and the end to write to. -/
  | pipe
  /-- Wait for a child to end, or see whether one has ended. -/
  | wait (patiently : Bool)
  /-- Send a signal to the process with a number, to a group by its negated number, or, for
  zero, to the group of the process. -/
  | kill (target : Int) (signal : Nat)
  /-- Begin a group of its own. -/
  | leadGroup
  | handle (signal : Nat) (handling : Handling)
  /-- Which signals were caught since the last time. -/
  | takeSignals
  | sleepUntil (time : Nat)
  | clock
  /-- The number of the process and of the one that started it. -/
  | numbers
  /-- The file system as the process sees it. -/
  | look
  | amend (deed : FileSystem → FileSystem × Report)
  | changeDirectory (path : Octets)
  /-- What a descriptor leads to, if it is open. -/
  | inspect (fd : Nat)
  /-- Go on reading or writing somewhere else; the answer is the place from the start. -/
  | seek (fd : Nat) (origin : Origin) (offset : Int)
  /-- The permissions that new entries do not get, which may be set anew. -/
  | withhold (permissions? : Option Nat)
  /-- Take second place to others by so much more; the answer is by how much in all. -/
  | giveWay (more : Int)
  /-- The limits of resources. -/
  | limits
  | setLimit (l : Limit)
  /-- Become another program. -/
  | execute (path : Octets) (arguments environment : List Octets)
  /-- Let time go on. -/
  | tick

/-- What the answer to a request is. -/
@[reducible] def Request.Answer : Request → Type
  | .read .. => Waiting (Except FileError Octets)
  | .write .. => Waiting (Except FileError Nat)
  | .openFile .. => Waiting (Except FileError Nat)
  | .close .. => Unit
  | .duplicate .. => Except FileError Unit
  | .duplicateFrom .. => Except FileError Nat
  | .pipe => Except FileError (Nat × Nat)
  | .wait .. => Waited
  | .kill .. => Except FileError Unit
  | .leadGroup => Unit
  | .handle .. => Handling
  | .takeSignals => List Nat
  | .sleepUntil .. => Waiting Unit
  | .clock => Nat
  | .numbers => Nat × Nat
  | .look => FileSystem
  | .amend .. => Report
  | .changeDirectory .. => Except FileError Unit
  | .inspect .. => Option Opened
  | .seek .. => Except FileError Nat
  | .withhold _ => Nat
  | .giveWay _ => Int
  | .limits => List Limit
  | .setLimit _ => Unit
  | .execute .. => FileError
  | .tick => Unit

/-! ## Processes -/

/-- A process from now on. -/
inductive Proc where
  /-- It has ended, with a status. -/
  | exit (status : Nat)
  | call (r : Request) (next : r.Answer → Proc)
  /-- It splits: the child is one process, the other goes on with the number of the child. -/
  | fork (child : Proc) (next : Nat → Proc)

/-- A stretch of a process that has a result: what it does before any continuation. -/
def Action (α : Type) : Type := (α → Proc) → Proc

namespace Action

instance : Monad Action where
  pure a := fun k => k a
  bind m f := fun k => m fun a => f a k

/-- Make a request. -/
def request (r : Request) : Action r.Answer := fun k => .call r k

/-- Start a child. -/
def fork (child : Proc) : Action Nat := fun k => .fork child k

/-- End, whatever was to come. -/
def exit {α : Type} (status : Nat) : Action α := fun _ => .exit status

/-- End by a signal; the status is for the case that the signal does not reach its aim. -/
def dieOf (n : Nat) : Action Nat := do
  let (pid, _) ← request .numbers
  let _ ← request (.handle n .byDefault)
  let _ ← request (.kill pid n)
  return 128 + n

/-- The process that does something and ends with its result. -/
def toProc (a : Action Nat) : Proc := a .exit

/-- More rounds than any process goes through. -/
def rounds : Nat := Natural.tenTo 15

/-- Do something over and over, until it has a result. -/
def repeatUntil {α σ : Type} (otherwise : α) (f : σ → Action (σ ⊕ α)) : Nat → σ → Action α
  | 0, _ => pure otherwise
  | n + 1, s => do
      match ← f s with
      | .inl s => repeatUntil otherwise f n s
      | .inr a => return a

/-! ## Reading and writing -/

/-- Open a file, a signal notwithstanding. -/
def openFile (path : Octets) (mode : OpenMode) : Action (Except FileError Nat) :=
  repeatUntil (.error .notFound) (fun () => do
    match ← request (.openFile path mode) with
    | .done a => return .inr a
    | .interrupted => return .inl ()) rounds ()

/-- How many bytes are read at once. -/
def blockSize : Nat := 65536

/-- Read from a descriptor, a signal notwithstanding. -/
def read (fd limit : Nat) : Action (Except FileError Octets) :=
  repeatUntil (.ok []) (fun () => do
    match ← request (.read fd limit) with
    | .done a => return .inr a
    | .interrupted => return .inl ()) rounds ()

/-- Write all bytes to a descriptor. -/
def write (fd : Nat) (bytes : Octets) : Action (Except FileError Unit) :=
  repeatUntil (.ok ()) (fun bytes => do
    if bytes = [] then return .inr (.ok ())
    else
      match ← request (.write fd bytes) with
      | .done (.ok n) => return .inl (bytes.drop n)
      | .done (.error e) => return .inr (.error e)
      | .interrupted => return .inl bytes) rounds bytes

/-- Read from a descriptor to the end. -/
def readAll (fd : Nat) : Action (Except FileError Octets) := do
  repeatUntil (.ok []) (fun chunks => do
    match ← read fd blockSize with
    | .ok [] => return .inr (.ok chunks.reverse.flatten)
    | .ok bytes => return .inl (bytes :: chunks)
    | .error e => return .inr (.error e)) rounds []

/-- Read a whole file. -/
def readFile (path : Octets) : Action (Except FileError Octets) := do
  match ← openFile path .reading with
  | .error e => return .error e
  | .ok fd =>
      let bytes ← readAll fd
      request (.close fd)
      return bytes

end Action

end SkipAudit
