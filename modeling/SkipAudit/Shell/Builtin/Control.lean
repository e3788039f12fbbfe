/-
Builtins that change what is carried out next.
-/
import SkipAudit.Shell.Builtin.Basic
import SkipAudit.Shell.Redirecting
import SkipAudit.Shell.Source

namespace SkipAudit.Shell.Builtin

open Run

/-! ## Leaving -/

/-- Pass over the commands that follow, up to the end of some loops. -/
def skipLoops (skip : Nat → Skip) : Builtin := fun _ _ _ args => do
  let n ← match args with
    | [] => pure 1
    | t :: _ => do
        let n ← number t
        if n = 0 then failNumber t else pure n
  let n := min n (← get).loops
  if n ≠ 0 then modify ({ · with skip := skip n })
  return 0

/-- Leave loops. -/
def leaveLoops : Builtin := skipLoops .leave

/-- Go on with the next round of a loop. -/
def nextRound : Builtin := skipLoops .again

/-- Come back from a function or a script. -/
def comeBack : Builtin := fun _ _ _ args => do
  match args with
  | [] =>
      modify ({ · with skip := .comeBack false })
      return (← get).status
  | t :: _ =>
      let n ← number t
      modify ({ · with skip := .comeBack true })
      return n

/-- End the shell. -/
def exit : Builtin := fun _ _ _ args => do
  match args with
  | [] => modify fun s => { s with status := s.trapStatus?.getD s.status }
  | t :: _ => setStatus (← number t)
  throw .ends

/-! ## Texts as commands -/

/-- Carry out the arguments as a command. -/
def eval : Builtin := fun e p _ args => do
  e.script p.notLast (List.intersperse [' '] args).flatten
  return (← get).status

/-- The script that a name stands for: a name without a slash is looked for in the directories
for programs. -/
def scriptPath (name : Octets) : Run Octets := do
  if name.contains '/' then return name
  else
    let dirs := Text.cutAt ':' (((← get).get? Session.pathName).getD [])
    let fs ← ask .look
    let paths := dirs.map fun d => if d = [] then name else d ++ '/' :: name
    match paths.find? fun p => fs.isFile (Path.mk p) with
    | some p => return p
    | none => fail (name ++ text ": not found")

/-- Carry out the commands of a file. -/
def carryOutFile : Builtin := fun e _ _ args => do
  match ← plain args with
  | [] => return 0
  | name :: _ =>
      let path ← scriptPath name
      let fd ← Redirecting.openFor .input path
      let source ← Redirecting.keep fd
      ask (.close fd)
      let old := (← get).builtin?
      modify ({ · with builtin? := some path })
      andFinally (Source.carryOut e.command .plain source ⟨[], 1, false⟩) do
        modify ({ · with builtin? := old })
        match source with
        | some n => ask (.close n)
        | none => pure ()
      modify fun s =>
        { s with skip := match s.skip with
                  | .comeBack _ => .none
                  | skip => skip }
      return (← get).status

/-! ## Traps -/

/-- The name of a signal, the end of the shell counting as one. -/
def signalName? (n : Nat) : Option Octets :=
  if n = 0 then some (text "EXIT")
  else if n = 29 then some (text "IO")
  else if n = 16 then some (text "16")
  else (Signal.ofNumber? n).map (·.name)

/-- How many signals there are, the end of the shell being one. -/
def signalCount : Nat := 65

/-- The number of a signal that is given by its number. -/
def numberedSignal? (t : Octets) : Option Nat := (Text.toNat? t).filter (· < signalCount)

/-- The number of a signal, given by its number or by its name; the end of the shell counts as one
only if `least` is zero. -/
def signal? (least : Nat) (t : Octets) : Option Nat :=
  match Text.toNat? t with
  | some n => if n < signalCount then some n else none
  | none =>
      ((List.range signalCount).drop least).find? fun n =>
        signalName? n = some (t.map Char.toUpper)

/-- Show the traps. -/
def showTraps : Run Unit := do
  let s ← get
  for n in List.range signalCount do
    match s.trap? n with
    | some action =>
        printLine (text "trap -- " ++ quoted action ++ ' ' :: (signalName? n).getD [])
    | none => pure ()

/-- Set the trap for a signal, or take it away. -/
def setTrap (action? : Option Octets) (n : Nat) : Run Unit := do
  modify fun s =>
    { s with traps := (action?.map (n, ·)).toList ++ s.traps.filter (·.1 != n) }
  if n ≠ 0 then
    arrange n (match action? with
      | none => .byDefault
      | some [] => .ignored
      | some _ => .caught)

/-- Set traps for some signals, up to one that is none. -/
def setTraps (action? : Option Octets) : List Octets → Run Nat
  | [] => return 0
  | t :: ts =>
      match signal? 0 t with
      | none => do
          emitError (text "trap: " ++ t ++ text ": bad trap\n")
          return 1
      | some n => do
          setTrap action? n
          setTraps action? ts

/-- Say what is done when a signal arrives, or when the shell ends. -/
def trap : Builtin := fun _ _ _ args => do
  match ← plain args with
  | [] =>
      showTraps
      return 0
  | [t] => setTraps none [t]
  | t :: ts =>
      if (numberedSignal? t).isSome then setTraps none (t :: ts)
      else setTraps (if t = ['-'] then none else some t) ts

end SkipAudit.Shell.Builtin
