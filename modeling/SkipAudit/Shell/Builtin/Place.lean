/-
Builtins for the current directory and for the limits of the shell.
-/
import SkipAudit.FileSystem.Permissions
import SkipAudit.Shell.Builtin.Basic

namespace SkipAudit.Shell.Builtin

open Run
open Permissions (all)

/-! ## The current directory -/

/-- The slashes that an absolute path begins with: two of them are kept, and no more. -/
def leadingSlashes (p : Octets) : Octets :=
  match p with
  | '/' :: '/' :: '/' :: _ => ['/']
  | '/' :: '/' :: _ => ['/', '/']
  | _ => ['/']

/-- The names on the way, with those taken back that are followed by two dots. -/
def normalSteps (steps : List Octets) : List Octets :=
  (steps.foldl (fun done step =>
    if step = [] ∨ step = ['.'] then done
    else if step = ['.', '.'] then done.drop 1
    else step :: done) []).reverse

/-- Where a path leads from a directory, by the names alone. -/
def pathFrom (directory p : Octets) : Octets :=
  let whole := if Text.startsWith ['/'] p then p else directory ++ '/' :: p
  leadingSlashes whole ++
    (List.intersperse ['/'] (normalSteps (Text.cutAt '/' whole))).flatten

/-- The path of the current directory, as the system has it. -/
def physicalDirectory : Run Octets := do
  return (← ask .look).currentPath.written

/-- Change the current directory; whether that was possible. -/
def enter (isPhysical : Bool) (p : Octets) : Run Bool := do
  let s ← get
  let target := if isPhysical then p else pathFrom s.directory p
  match ← ask (.changeDirectory target) with
  | .error _ => return false
  | .ok () =>
      let new ← if isPhysical then physicalDirectory else pure target
      let mark := fun (s : Session) (name : Octets) => s.alter name ({ · with exported := true })
      Run.assign Session.oldDirectoryName s.directory
      Run.assign Session.directoryName new
      modify fun s =>
        { mark (mark s Session.oldDirectoryName) Session.directoryName with directory := new }
      return true

/-- A path that is not looked for in other directories; the empty path is. -/
def isFixed (p : Octets) : Bool :=
  Text.startsWith ['/'] p || p == ['.'] || p == ['.', '.'] || Text.startsWith ['.', '/'] p ||
    Text.startsWith ['.', '.', '/'] p

/-- The variable with the directories in which directories are looked for. -/
def directoryPathName : Octets := text "CDPATH"

/-- The places that a path may stand for, with whether it has to be said which one it is. -/
def placesFor (s : Session) (p : Octets) : List (Octets × Bool) :=
  if isFixed p then []
  else
    (Text.cutAt ':' ((s.get? directoryPathName).getD [])).map fun d =>
      let target := if p = [] then ['.'] else p
      if d = [] then (target, false) else (d ++ '/' :: target, true)

/-- Change the current directory. -/
def changeDirectory : Builtin := fun _ _ _ args => do
  let (os, args) ← options "LP" args
  let isPhysical := os.getLast?.map (·.1) = some 'P'
  let s ← get
  let (p, isShown) := match args with
    | [] => ((s.get? Session.homeName).getD [], false)
    | ['-'] :: _ => ((s.get? Session.oldDirectoryName).getD [], true)
    | p :: _ => (p, false)
  let target := if p = [] then ['.'] else p
  let fs ← ask .look
  let isDirectory := fun (q : Octets) => (fs.listing? (Path.mk q)).isSome
  let (target, isShown) := match (placesFor s p).find? fun q => isDirectory q.1 with
    | some (q, isElsewhere) => (q, isShown || isElsewhere)
    | none => (target, isShown)
  if ← enter isPhysical target then
    if isShown then printLine (← get).directory
    return 0
  else fail (text "can't cd to " ++ p)

/-- Write the path of the current directory. -/
def printDirectory : Builtin := fun _ _ _ args => do
  let (os, _) ← options "LP" args
  if os.getLast?.map (·.1) = some 'P' then printLine (← physicalDirectory)
  else printLine (← get).directory
  return 0

/-! ## Limits -/

/-- Show or change the permissions that new files do not get. -/
def umask : Builtin := fun _ _ _ args => do
  let (os, args) ← options "S" args
  let mask ← ask (.withhold none)
  match args with
  | [] =>
      if os.isEmpty then
        let ds := Nat.toDigits 8 mask
        printLine (List.replicate (4 - ds.length) '0' ++ ds)
      else printLine (Permissions.symbolic (all - mask))
      return 0
  | t :: _ =>
      if (t.head?.map Char.isDigit).getD false then
        match Permissions.octal? t with
        | some n =>
            let _ ← ask (.withhold (some n))
            return 0
        | none => failNumber t
      else match (Text.cutAt ',' t).foldlM Permissions.changed? (all - mask) with
        | some n =>
            let _ ← ask (.withhold (some (all - n)))
            return 0
        | none => fail (text "Illegal mode: " ++ t)

/-- The resources with a limit: letter, description, and the unit in which it is told. -/
def resources : List (Char × String × Nat) :=
  [('t', "time(seconds)", 1), ('f', "file(blocks)", 512), ('d', "data(kbytes)", 1024),
   ('s', "stack(kbytes)", 1024), ('c', "coredump(blocks)", 512), ('m', "memory(kbytes)", 1024),
   ('l', "locked memory(kbytes)", 1024), ('p', "process", 1), ('n', "nofiles", 1),
   ('v', "vmemory(kbytes)", 1024), ('w', "locks", 1), ('r', "rtprio", 1)]

/-- A limit as it is told in some unit. -/
def limitText (unit : Nat) : Option Nat → Octets
  | some n => Text.ofNat (n / unit)
  | none => text "unlimited"

/-- Show or set limits of resources. -/
def ulimit : Builtin := fun _ _ _ args => do
  let (os, args) ← options "HSatfdscmlpnvwr" args
  let which := (((os.map (·.1)).filter fun c => c != 'H' && c != 'S').getLast?).getD 'f'
  let kind := ((os.map (·.1)).filter fun c => c == 'H' || c == 'S').getLast?
  let limits ← ask .limits
  let current (letter : Char) : Limit :=
    (limits.find? (·.resource == letter)).getD ⟨letter, none, none⟩
  let chosen (l : Limit) : Option Nat := if kind = some 'H' then l.hard else l.soft
  match args with
  | [] =>
      if which = 'a' then
        resources.forM fun (letter, name, unit) =>
          printLine (text name ++ List.replicate (20 - name.length) ' ' ++
            ' ' :: limitText unit (chosen (current letter)))
      else
        (resources.filter (·.1 == which)).forM fun (letter, _, unit) =>
          printLine (limitText unit (chosen (current letter)))
      return 0
  | t :: more =>
      if which = 'a' || more ≠ [] then fail (text "too many arguments")
      else
        let unit := ((resources.find? (·.1 == which)).map (·.2.2)).getD 1
        let value? : Option (Option Nat) := if t = text "unlimited" then some none
          else (Text.toNat? t).map fun n => some (n * unit)
        match value? with
        | none => fail (text "bad number")
        | some value =>
            let l := current which
            ask (.setLimit ⟨which, if kind = some 'H' then l.soft else value,
              if kind = some 'S' then l.hard else value⟩)
            return 0

/-- Show how much time has been used. -/
def times : Builtin := fun _ _ _ _ => do
  printLine (text "0m0.000000s 0m0.000000s")
  printLine (text "0m0.000000s 0m0.000000s")
  return 0

end SkipAudit.Shell.Builtin
