/-
What processes have open: files, devices, pipes, and the collectors in which the output of a
program is gathered by whoever started it.
-/
import SkipAudit.Process.Request

namespace SkipAudit

/-- Where the bytes that pass through an open file come from and go to. -/
inductive Channel where
  | file (identity : Nat)
  | directory
  | device (kind : Device)
  /-- The end of a pipe that is read from. -/
  | fromPipe (number : Nat)
  /-- The end of a pipe that is written to. -/
  | intoPipe (number : Nat)
  /-- Both ends of a pipe. -/
  | throughPipe (number : Nat)
  | collector (number : Nat)
deriving DecidableEq, Repr

/-- An open file.  Descriptors that were duplicated lead to one open file. -/
structure OpenFile where
  number : Nat
  channel : Channel
  /-- The names that led to it, from the top; none if it has none. -/
  place : List Name
  /-- How far it has been read or written. -/
  offset : Nat
  mode : OpenMode
deriving DecidableEq, Repr

/-- What is on its way through a pipe: the chunks that come next, and behind them those that
were written last, the newest first. -/
structure Pipe where
  number : Nat
  leading : List Octets
  trailing : List Octets
  size : Nat
  /-- The number of the entry that stands for it, if one does. -/
  fifo? : Option Nat
  /-- How often its ends were opened through that entry, to read and to write. -/
  readers : Nat
  writers : Nat
deriving DecidableEq, Repr

namespace Pipe

/-- How many bytes a pipe holds. -/
def capacity : Nat := 65536

/-- So many bytes go into a pipe together or not at all. -/
def atomicSize : Nat := 4096

/-- A pipe with nothing in it. -/
def empty (number : Nat) (fifo? : Option Nat) : Pipe := ⟨number, [], [], 0, fifo?, 0, 0⟩

/-- Put bytes in. -/
def push (p : Pipe) (bytes : Octets) : Pipe :=
  { p with trailing := bytes :: p.trailing, size := p.size + bytes.length }

/-- The first of some chunks, up to a number of bytes, and what is left. -/
def takeFrom : Nat → List Octets → Octets × List Octets
  | _, [] => ([], [])
  | limit, c :: cs =>
      let (now, later) := c.splitAt limit
      if later = [] then
        let (more, rest) := takeFrom (limit - now.length) cs
        (now ++ more, rest)
      else (now, later :: cs)

/-- Take at most so many bytes out. -/
def take (p : Pipe) (limit : Nat) : Octets × Pipe :=
  let (bytes, rest) := takeFrom limit p.leading
  let count := bytes.length
  if count = limit || p.trailing.isEmpty then
    (bytes, { p with leading := rest, size := p.size - count })
  else
    let (more, rest) := takeFrom (limit - count) p.trailing.reverse
    (bytes ++ more,
      { p with leading := rest, trailing := [], size := p.size - count - more.length })

/-- How many pieces that go in together there is room for. -/
def room (p : Pipe) : Nat := (capacity - p.size) / atomicSize

/-- How many of some bytes go in now, if any do. -/
def accepts (p : Pipe) (bytes : Octets) : Option Nat :=
  let space := capacity - p.size
  if (bytes.drop space).isEmpty then some bytes.length
  else if p.room = 0 || (bytes.drop atomicSize).isEmpty then none
  else some (p.room * atomicSize)

end Pipe

/-- What was gathered, the newest first. -/
structure Collector where
  number : Nat
  /-- Somebody wants to know what is gathered; otherwise it is thrown away. -/
  isWanted : Bool
  chunks : List Octets
  /-- Nobody will ask for it any more. -/
  closed : Bool
deriving DecidableEq, Repr

namespace Collector

/-- A collector with nothing in it. -/
def empty (number : Nat) (isWanted : Bool) : Collector := ⟨number, isWanted, [], false⟩

/-- Take in some bytes. -/
def add (c : Collector) (bytes : Octets) : Collector :=
  if c.isWanted then { c with chunks := bytes :: c.chunks } else c

/-- Nobody asks any more: what was gathered goes, and nothing else is taken in. -/
def close (c : Collector) : Collector := { c with chunks := [], closed := true }

/-- Everything that was gathered, in order. -/
def contents (c : Collector) : Octets := c.chunks.reverse.flatten

end Collector

end SkipAudit
