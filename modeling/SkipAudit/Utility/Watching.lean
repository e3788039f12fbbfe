/-
Programs that wait, and that watch how long others take.
-/
import SkipAudit.Utility.Quantity
import SkipAudit.Utility.Starting

namespace SkipAudit.Utility

/-! ## Waiting -/

/-- Wait for the sum of some times. -/
def sleep : Utility := fun c =>
  withOptions 1 "" [] c fun p => do
    if p.rest = [] then c.misused 1 (text "missing operand")
    else
      let wrong := p.rest.filter fun t => (duration? t).isNone
      if wrong = [] then
        let now ← Action.request .clock
        let length := Natural.total (p.rest.filterMap duration?)
        Action.repeatUntil 0 (fun () => do
          match ← Action.request (.sleepUntil (now + length)) with
          | .done () => return .inr 0
          | .interrupted => return .inl ()) Action.rounds ()
      else
        for t in wrong do c.warn (text "invalid time interval " ++ c.quote t)
        let _ ← Action.write 2 c.hint
        return 1

/-! ## A limited time -/

/-- How a program is watched. -/
structure Watch where
  child : Nat
  /-- When a signal is sent. -/
  deadline : Nat
  /-- The signal. -/
  signal : Nat
  /-- How long after that the child is killed, if at all. -/
  killAfter : Option Nat
  /-- Only the child is sent signals, not what it has started. -/
  isForeground : Bool
  /-- What is told of a signal that is sent because the time is over. -/
  told? : Option (Nat → Octets)
  isTimedOut : Bool

/-- A time that does not come. -/
def never : Nat := Natural.tenTo 18

/-- When so much time is over; no time at all means that there is no limit. -/
def deadlineFor (now length : Nat) : Nat := if length = 0 then never else now + length

/-- Send a signal to everybody who is watched.  Whoever watches does not take it. -/
def sendAll (w : Watch) (n : Nat) : Action Unit := do
  let _ ← Action.request (.kill w.child n)
  if !w.isForeground then
    let _ ← Action.request (.handle n .ignored)
    let _ ← Action.request (.kill 0 n)
    if n ≠ Signal.ofKill && n ≠ Signal.ofResume then
      let _ ← Action.request (.kill w.child Signal.ofResume)
      let _ ← Action.request (.handle Signal.ofResume .ignored)
      let _ ← Action.request (.kill 0 Signal.ofResume)

/-- Send a signal, and have it followed by the one that kills, if that is wanted. -/
def strike (w : Watch) (n : Nat) (isTimedOut : Bool) : Action Watch := do
  let now ← Action.request .clock
  let w' := match w.killAfter with
    | some t =>
        { w with signal := Signal.ofKill, deadline := deadlineFor now t, killAfter := none }
    | none => { w with deadline := if isTimedOut then never else w.deadline }
  match w.told? with
  | some f =>
      if isTimedOut then
        let _ ← Action.write 2 (f n)
  | none => pure ()
  sendAll w n
  return { w' with isTimedOut := w.isTimedOut || isTimedOut }

/-- Wait for the end of who is watched. -/
def watch (w : Watch) : Action (Ending × Bool) :=
  Action.repeatUntil (.outOfTime, true) (fun (w : Watch) => do
    match ← Action.request (.wait false) with
    | .child e => return .inr (e.ending, w.isTimedOut)
    | _ =>
        match ← Action.request (.sleepUntil w.deadline) with
        | .done () => return .inl (← strike w w.signal true)
        | .interrupted => do
            let ns ← Action.request .takeSignals
            let w ← (ns.filter (· ≠ Signal.ofChild)).foldlM (fun w n => strike w n false) w
            return .inl w) Action.rounds w

/-- The signals that are passed on. -/
def passedSignals : List Nat := [1, 2, 3, 13, 15]

/-- The signal that an option names. -/
def signalNamed? (t : Octets) : Option Nat :=
  if Text.toNat? t = some 0 then some 0
  else (Signal.ofWord? (t.map Char.toUpper)).map (·.number)

/-- What is wrong with an option of a limit. -/
def limitFault? (c : Call) : Char × Octets → Option Octets
  | ('k', t) =>
      if (duration? t).isNone then some (text "invalid time interval " ++ c.quote t) else none
  | ('s', t) =>
      if (signalNamed? t).isNone then some (c.quote t ++ text ": invalid signal") else none
  | _ => none

/-- What is told of a signal. -/
def sendingLine (c : Call) (command : Octets) (n : Nat) : Octets :=
  c.complaint (text "sending signal " ++
    ((Signal.ofNumber? n).map (·.name)).getD (Text.ofNat n) ++ text " to command " ++
    c.quote command)

/-- Run a program for a limited time. -/
def timeout : Utility := fun c =>
  withLeadingOptions 125 "k:s:v"
    [("kill-after", 'k', .needed), ("signal", 's', .needed), ("verbose", 'v', .none),
     ("preserve-status", 'P', .none), ("foreground", 'F', .none)] c fun p => do
    match p.options.findSome? (limitFault? c), p.rest with
    | some t, _ => c.misused 125 t
    | none, limit :: name :: args =>
        match duration? limit with
        | none => c.misused 125 (text "invalid time interval " ++ c.quote limit)
        | some length => do
            let signal := ((p.value? 's').bind signalNamed?).getD 15
            if !p.has 'F' then Action.request .leadGroup
            for n in signal :: Signal.ofChild :: passedSignals do
              if 0 < n && n ≠ Signal.ofKill && n ≠ Signal.ofStop then
                let _ ← Action.request (.handle n .caught)
            let child ← Action.fork (Action.toProc
              (becomeOrWarn c "failed to run command " (name :: args) c.environment))
            let now ← Action.request .clock
            let (ending, isTimedOut) ← watch
              { child, deadline := deadlineFor now length, signal
                killAfter := (p.value? 'k').bind duration?, isForeground := p.has 'F'
                told? := if p.has 'v' then some (sendingLine c name) else none
                isTimedOut := false }
            let keeps := p.has 'P'
            match ending with
            | .exited status => return if isTimedOut && !keeps then 124 else status
            | .killed n =>
                if !isTimedOut then Action.dieOf n
                else return if keeps || n = Signal.ofKill then 128 + n else 124
            | .outOfTime => return 124
    | none, _ => do
        let _ ← Action.write 2 c.hint
        return 125

end SkipAudit.Utility
