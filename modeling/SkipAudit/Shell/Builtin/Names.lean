/-
Builtins that tell what names stand for, and give names to texts.
-/
import SkipAudit.Shell.Builtin.Basic
import SkipAudit.Shell.Programs
import SkipAudit.Shell.Reader

namespace SkipAudit.Shell.Builtin

open Run

/-! ## What names stand for -/

/-- The builtins that belong to the language itself. -/
def specialNames : List Octets :=
  [".", ":", "break", "continue", "eval", "exec", "exit", "export", "local", "readonly",
   "return", "set", "shift", "times", "trap", "unset"].map text

/-- The other builtins. -/
def ordinaryNames : List Octets :=
  ["[", "alias", "bg", "cd", "chdir", "command", "echo", "false", "fg", "getopts", "hash",
   "jobs", "kill", "printf", "pwd", "read", "test", "true", "type", "ulimit", "umask",
   "unalias", "wait"].map text

/-- A name of a builtin that belongs to the language itself. -/
def isSpecial (name : Octets) : Bool := specialNames.contains name

/-- A name of a builtin. -/
def isBuiltin (name : Octets) : Bool := isSpecial name || ordinaryNames.contains name

/-- What a name stands for. -/
inductive Meaning where
  | keyword
  | standsFor (value : Octets)
  | function
  | builtin
  /-- `isKnown`: it had been found before. -/
  | program (path : Octets) (isKnown : Bool)
  | nothing

/-- What a name stands for as a program. -/
def programMeaning (path name : Octets) : Run Meaning := do
  if name.contains '/' then
    if (← ask .look).pathExists (Path.mk name) then return .program name false
    else return .nothing
  else
    let isKnown := (← get).programs.contains name
    match ← Programs.find path name with
    | .ok p => return .program p isKnown
    | .error _ => return .nothing

/-- What a name stands for. -/
def meaningOf (path name : Octets) : Run Meaning := do
  let s ← get
  if Reserved.all.any fun r => text r.2 == name then return .keyword
  else match s.aliases.lookup name with
    | some value => return .standsFor value
    | none =>
        if (s.function? name).isSome then return .function
        else if isBuiltin name then return .builtin
        else if name = [] then return .nothing
        else programMeaning path name

/-- Say what a name stands for. -/
def describe (path name : Octets) : Run Nat := do
  let m ← meaningOf path name
  printLine (name ++ text (match m with
    | .keyword => " is a shell keyword"
    | .standsFor _ => " is an alias for "
    | .function => " is a shell function"
    | .builtin => if isSpecial name then " is a special shell builtin" else " is a shell builtin"
    | .program _ false => " is "
    | .program _ true => " is a tracked alias for "
    | .nothing => ": not found") ++ match m with
    | .standsFor t | .program t _ => t
    | _ => [])
  return match m with
    | .nothing => 127
    | _ => 0

/-- Write what has to be written to mean what a name stands for. -/
def locate (path name : Octets) : Run Nat := do
  match ← meaningOf path name with
  | .nothing => return 127
  | .standsFor value => printLine (text "alias " ++ name ++ '=' :: quoted value)
  | .program p _ => printLine p
  | _ => printLine name
  return 0

/-- Say what names stand for. -/
def type : Builtin := fun _ _ _ args => do
  let path ← Programs.searchPath
  args.foldlM (fun status name => do return max status (← describe path name)) 0

/-- The directories in which the usual programs are found. -/
def standardPath : Octets := text "/usr/sbin:/usr/bin:/sbin:/bin"

/-- Tell of a command, without carrying it out. -/
def command : Builtin := fun _ _ _ args => do
  let (os, names) ← options "pvV" args
  let path ← if os.any (·.1 == 'p') then pure standardPath else Programs.searchPath
  match names with
  | [] => return 0
  | name :: _ =>
      if os.any (·.1 == 'V') then describe path name
      else if os.any (·.1 == 'v') then locate path name
      else return 0

/-- Show the programs that have been found, find more, or forget them. -/
def hash : Builtin := fun _ _ _ args => do
  let (os, names) ← options "r" args
  let path ← Programs.searchPath
  if !os.isEmpty then
    modify ({ · with programs := [] })
    return 0
  else if names = [] then
    for name in Session.inDrawers Session.programDrawerCount id (← get).programs do
      match ← Programs.find path name with
      | .ok p => printLine p
      | .error _ => pure ()
    return 0
  else
    names.foldlM (fun status name => do
      if (← get).function? name |>.isSome then return status
      else if isBuiltin name || name.contains '/' then return status
      else match ← Programs.find path name with
        | .ok _ => return status
        | .error cause =>
            complain (name ++ text ": " ++ executeReason cause)
            return 1) 0

/-! ## Aliases -/

/-- Show an alias. -/
def showAlias (a : Octets × Octets) : Run Unit := printLine (a.1 ++ '=' :: quoted a.2)

/-- Give names to texts, or show such names. -/
def setAlias : Builtin := fun _ _ _ args => do
  let aliases := (← get).aliases
  if args = [] then
    (Session.inDrawers Session.drawerCount Prod.fst aliases).forM showAlias
    return 0
  else
    args.foldlM (fun status arg => do
      let aliases := (← get).aliases
      match (arg.drop 1).span (· != '=') with
      | (name, '=' :: value) =>
          let name := arg.take 1 ++ name
          let known := aliases.any (·.1 == name)
          modify ({ · with aliases :=
            if known then aliases.map fun a => if a.1 = name then (name, value) else a
            else aliases ++ [(name, value)] })
          return status
      | _ =>
          match aliases.lookup arg with
          | some value =>
              showAlias (arg, value)
              return status
          | none =>
              emitError (text "alias: " ++ arg ++ text " not found\n")
              return 1) 0

/-- Take names from texts. -/
def removeAlias : Builtin := fun _ _ _ args => do
  let (os, names) ← options "a" args
  if !os.isEmpty then
    modify ({ · with aliases := [] })
    return 0
  else
    names.foldlM (fun status name => do
      let aliases := (← get).aliases
      if aliases.any (·.1 == name) then
        modify ({ · with aliases := aliases.filter (·.1 != name) })
        return status
      else
        emitError (text "unalias: " ++ name ++ text " not found\n")
        return 1) 0

end SkipAudit.Shell.Builtin
