/-
How a process ends, and the signals that may end it.
-/
import SkipAudit.Text.Basic

namespace SkipAudit

/-- The end of a process. -/
inductive Ending where
  | exited (status : Nat)
  | killed (signal : Nat)
  /-- It was stopped from outside because its time was over. -/
  | outOfTime
deriving DecidableEq, Repr

/-- The code of an end: the status, or the negated number of the signal. -/
def Ending.code : Ending → Int
  | .exited status => status
  | .killed signal => -(signal : Int)
  | .outOfTime => -9

/-- What a signal does to a process that makes no arrangement for it. -/
inductive Disposition where
  | kills
  | stops
  | ignored
deriving DecidableEq, Repr

/-- A signal. -/
structure Signal where
  number : Nat
  name : Text
  disposition : Disposition
  /-- What a shell says of a child that it killed. -/
  obituary : Text
deriving DecidableEq, Repr

namespace Signal

/-- The signal that a child sends when it ends. -/
def ofChild : Nat := 17

/-- The signal that ends a process without its consent. -/
def ofKill : Nat := 9

/-- The signal that stops a process without its consent. -/
def ofStop : Nat := 19

/-- The signal that lets a stopped process go on. -/
def ofResume : Nat := 18

/-- The signal for one who writes where nobody reads. -/
def ofPipe : Nat := 13

/-- The signal for one whose arithmetic goes wrong. -/
def ofArithmetic : Nat := 8

/-- The signal for one who would make a file too large. -/
def ofSize : Nat := 25

/-- A signal that ends a process, with what is said of it. -/
def fatal (number : Nat) (name obituary : String) : Signal :=
  ⟨number, text name, .kills, text obituary⟩

/-- A signal that ends no process. -/
def harmless (number : Nat) (name : String) (d : Disposition) : Signal :=
  ⟨number, text name, d, []⟩

/-- The signals with a meaning of their own. -/
def usual : List Signal :=
  [fatal 1 "HUP" "Hangup", fatal 2 "INT" "", fatal 3 "QUIT" "Quit",
   fatal 4 "ILL" "Illegal instruction", fatal 5 "TRAP" "Trace/breakpoint trap",
   fatal 6 "ABRT" "Aborted", fatal 7 "BUS" "Bus error", fatal 8 "FPE" "Floating point exception",
   fatal 9 "KILL" "Killed", fatal 10 "USR1" "User defined signal 1",
   fatal 11 "SEGV" "Segmentation fault", fatal 12 "USR2" "User defined signal 2",
   fatal 13 "PIPE" "", fatal 14 "ALRM" "Alarm clock", fatal 15 "TERM" "Terminated",
   fatal 16 "STKFLT" "Stack fault", harmless 17 "CHLD" .ignored, harmless 18 "CONT" .ignored,
   harmless 19 "STOP" .stops, harmless 20 "TSTP" .stops, harmless 21 "TTIN" .stops,
   harmless 22 "TTOU" .stops, harmless 23 "URG" .ignored,
   fatal 24 "XCPU" "CPU time limit exceeded", fatal 25 "XFSZ" "File size limit exceeded",
   fatal 26 "VTALRM" "Virtual timer expired", fatal 27 "PROF" "Profiling timer expired",
   harmless 28 "WINCH" .ignored, fatal 29 "POLL" "I/O possible", fatal 30 "PWR" "Power failure",
   fatal 31 "SYS" "Bad system call"]

/-- The first and the last of the signals that are free for any use. -/
def firstFree : Nat := 34
def lastFree : Nat := 64

/-- The name of a signal that is free for any use: counted from whichever end is nearer. -/
def freeName (n : Nat) : Text :=
  if n = firstFree then text "RTMIN"
  else if n = lastFree then text "RTMAX"
  else if n < 50 then text "RTMIN+" ++ Text.ofNat (n - firstFree)
  else text "RTMAX-" ++ Text.ofNat (lastFree - n)

/-- The signals that are free for any use. -/
def free : List Signal :=
  (List.range (lastFree + 1 - firstFree)).map fun i =>
    ⟨firstFree + i, freeName (firstFree + i), .kills, text "Real-time signal " ++ Text.ofNat i⟩

/-- A signal between the others, which has no name. -/
def nameless (n : Nat) : Signal := ⟨n, Text.ofNat n, .kills, text "Unknown signal " ++ Text.ofNat n⟩

/-- All signals. -/
def all : List Signal := usual ++ [nameless 32, nameless 33] ++ free

/-- The signal with a number. -/
def ofNumber? (n : Nat) : Option Signal := all.find? (·.number == n)

/-- The number of a signal that is named by how far it is from one of the ends. -/
def countedFrom? (t : Text) : Option Nat :=
  match Text.dropStart? (text "RTMIN") t, Text.dropStart? (text "RTMAX") t with
  | some [], _ => some firstFree
  | _, some [] => some lastFree
  | some ('+' :: ds), _ => (Text.toNat? ds).bind fun k =>
      if firstFree + k ≤ lastFree then some (firstFree + k) else none
  | _, some ('-' :: ds) => (Text.toNat? ds).bind fun k =>
      if firstFree + k ≤ lastFree then some (lastFree - k) else none
  | _, _ => none

/-- The signal that a word names, with `SIG` in front of it or not, or by its number; a number
may also be the status that a shell gives for it. -/
def ofWord? (t : Text) : Option Signal :=
  match Text.toNat? t with
  | some n =>
      let n := if 255 ≤ n then n % 256 else n % 128
      (usual ++ free).find? (·.number == n)
  | none =>
      let name := (Text.dropStart? (text "SIG") t).getD t
      match countedFrom? name with
      | some n => free.find? (·.number == n)
      | none => usual.find? (·.name == name)

end Signal

end SkipAudit
