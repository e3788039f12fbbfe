/-
Simple commands: words with assignments and redirections.

The words say which command it is: a function, a builtin or a program.  Redirections come
before assignments, and both before the command itself; around everything but builtins that
belong to the language they hold for the command alone.
-/
import SkipAudit.Shell.Builtin.Table

namespace SkipAudit.Shell.Simple

open Run

/-! ## Which command it is -/

/-- Expand words up to the first that becomes something, and tell what is left of them. -/
def firstFields (e : Evaluator) : List Word → Run (List Octets × List Word)
  | [] => return ([], [])
  | w :: ws => do
      match ← Expansion.fields e w with
      | [] => firstFields e ws
      | fields => return (fields, ws)

/-- Some expanded words, as long as there are any. -/
def ensure (e : Evaluator) (args : List Octets) (rest : List Word) :
    Run (List Octets × List Word) :=
  if args.isEmpty then firstFields e rest else return (args, rest)

/-- What stands behind the name of the builtin that carries out commands. -/
inductive Carried where
  /-- A command, which is not a function; `isStandard`: looked for in the usual directories. -/
  | command (args : List Octets) (rest : List Word) (isStandard : Bool)
  /-- Something else, for the builtin itself. -/
  | other (args : List Octets) (rest : List Word)

/-- What stands behind the name of the builtin that carries out commands; `seen` are the words
before, and the number bounds how many options there are. -/
def carriedWithin (e : Evaluator) :
    Nat → List Octets → Bool → List Octets → List Word → Run Carried
  | 0, seen, _, args, rest => return .other (seen ++ args) rest
  | n + 1, seen, isStandard, args, rest => do
      let (args, rest) ← ensure e args rest
      match args with
      | [] => return .other seen []
      | ['-', '-'] :: more => do
          let (more, rest) ← ensure e more rest
          if more = [] then return .other (seen ++ args) rest
          else return .command more rest isStandard
      | ('-' :: c :: cs) :: more =>
          if (c :: cs).all (· == 'p') then
            carriedWithin e n (seen ++ [args.headD []]) true more rest
          else return .other (seen ++ args) rest
      | args => return .command args rest isStandard

/-- What carries out a command. -/
inductive Target where
  /-- There are no words. -/
  | nothing
  | function (f : Function)
  | builtin (name : Octets) (run : Builtin)
  | program

/-- A simple command whose kind is known. -/
structure Known where
  target : Target
  /-- The words as they are traced, and as the command gets them. -/
  shown : List Octets
  args : List Octets
  rest : List Word
  /-- It belongs to the language: its failure is the shell's, and assignments stay. -/
  isSpecial : Bool
  /-- It is no builtin of the language at the beginning, so assignments are its own. -/
  isClosed : Bool
  isStandard : Bool

/-- What carries out the command with a name. -/
def targetOf (name : Octets) (allowsFunction : Bool) : Run Target := do
  let s ← get
  match if allowsFunction then s.function? name else none with
  | some f => return .function f
  | none =>
      match Builtin.ofName? name with
      | some b => return .builtin name b
      | none => return .program

/-- See through the builtin that carries out commands, as often as it stands there; the number
bounds how often. -/
def seeThrough (e : Evaluator) : Nat → Known → Run Known
  | 0, k => return k
  | n + 1, k => do
      match k.target with
      | .builtin ['c', 'o', 'm', 'm', 'a', 'n', 'd'] _ =>
          match ← carriedWithin e (k.args.length + k.rest.length + 1) [] k.isStandard
              (k.args.drop 1) k.rest with
          | .other args rest =>
              return { k with
                args := k.args.take 1 ++ args
                shown := k.shown.take (k.shown.length - (k.args.length - 1)) ++ args, rest }
          | .command args rest isStandard =>
              let target ← targetOf (args.headD []) false
              let before := k.shown.take (k.shown.length - (k.args.length - 1))
              seeThrough e n { k with target, args, rest, isStandard, shown := before ++ args }
      | _ => return k

/-- Which command the words are. -/
def know (e : Evaluator) (words : List Word) : Run Known := do
  let (args, rest) ← firstFields e words
  match args with
  | [] => return ⟨.nothing, [], [], [], false, false, false⟩
  | name :: _ =>
      let target ← targetOf name true
      let isSpecial := match target with
        | .builtin .. => Builtin.isSpecial name
        | _ => false
      seeThrough e (words.length + args.length + 1)
        ⟨target, args, args, rest, isSpecial, !isSpecial, false⟩

/-- The builtins whose arguments may be assignments. -/
def declares : Target → Bool
  | .builtin name _ => [text "export", text "readonly", text "local", text "alias"].contains name
  | _ => false

/-- Expand the words that are left. -/
def expandRest (e : Evaluator) (k : Known) : Run Known := do
  let fields ← k.rest.mapM fun w =>
    if declares k.target && Word.isAssignment w then do
      return [← Expansion.textIn e .assignment w]
    else Expansion.fields e w
  return { k with
    args := k.args ++ fields.flatten, shown := k.shown ++ fields.flatten, rest := [] }

/-! ## Before the command -/

/-- The builtin that becomes another program. -/
def isExec : Target → Bool
  | .builtin ['e', 'x', 'e', 'c'] _ => true
  | _ => false

/-- Carry out an assignment, for the command alone or for good; the assignment is told. -/
def assignOne (e : Evaluator) (isOwn exports : Bool) (w : Word) : Run Octets := do
  let t ← Expansion.textIn e .assignment w
  match assignment? t with
  | none => return t
  | some (name, value) =>
      if isOwn then modify (·.hide name)
      Run.assign name value
      if isOwn || exports then modify (·.alter name ({ · with exported := true }))
      return t

/-- Write what is going to be carried out, if that is wanted. -/
def trace (e : Evaluator) (kept : Redirecting.Kept) (words : List Octets) : Run Unit := do
  let s ← get
  if s.has 'x' then
    set (s.setOption 'x' false)
    let front ← Expansion.textIn e .document
      (Script.document ((s.get? Session.tracePromptName).getD []))
    modify (·.setOption 'x' true)
    let fd := match kept.reverse.lookup 2 with
      | some (some n) => n
      | _ => 2
    let _ ← emit fd (front ++ (List.intersperse [' '] words).flatten ++ ['\n'])

/-! ## The command itself -/

/-- Carry out a builtin. -/
def builtin (e : Evaluator) (p : Position) (isSpecial : Bool) (name : Octets) (run : Builtin)
    (args : List Octets) : Run Unit := do
  let old := (← get).builtin?
  modify ({ · with builtin? := some name, hasLostOutput := false })
  match ← caught (run e p name args) with
  | .ok status =>
      let status ← if (← get).hasLostOutput then do
          complain (name ++ text ": I/O error")
          pure (if status % 2 = 0 then status + 1 else status)
        else pure status
      modify ({ · with status, builtin? := old })
  | .error stop =>
      modify ({ · with builtin? := old })
      if isSpecial || stop != .fails then throw stop

/-- How many functions may be carried out inside each other. -/
def maxDepth : Nat := 1000

/-- Carry out a function. -/
def function (e : Evaluator) (p : Position) (f : Function) (args : List Octets) : Run Unit := do
  let s ← get
  if maxDepth ≤ s.functionDepth then
    fail (text "Maximum function recursion depth (" ++ Text.ofNat maxDepth ++ text ") reached")
  else
    set { s with
      arguments := args, optionPlace := ⟨1, none⟩, loops := 0
      functionDepth := s.functionDepth + 1 }
    andFinally (e.command p.notLast f.body) do
      modify fun t =>
        { t with
          arguments := s.arguments, optionPlace := s.optionPlace, loops := s.loops
          functionDepth := s.functionDepth
          skip := match t.skip with
            | .comeBack _ => .none
            | skip => skip }

/-- Carry out a program. -/
def program (e : Evaluator) (p : Position) (isStandard : Bool) (args : List Octets) :
    Run Unit := do
  let path ← if isStandard then pure Builtin.standardPath else Programs.searchPath
  let name := args.headD []
  let found ← if name.contains '/' then pure (.ok name) else Programs.find path name
  match found with
  | .error cause =>
      complain (name ++ text ": " ++ executeReason cause)
      setStatus 127
  | .ok _ =>
      if p.isLast && !(← get).traps.any (·.2 != []) then Programs.become path args
      else
        let pid ← fork e (Programs.become path args)
        setStatus (← waitForAll [pid])

/-- Carry out the command, everything around it being done. -/
def carryOutKnown (e : Evaluator) (p : Position) (k : Known) : Run Unit := do
  match k.target with
  | .nothing => setStatus (← get).outputStatus
  | .builtin name run => builtin e p k.isSpecial name run (k.args.drop 1)
  | .function f => function e p f (k.args.drop 1)
  | .program => program e p k.isStandard k.args

/-- End the scopes of local variables down to a number of them. -/
def leaveScopes (count : Nat) : Run Unit :=
  modify fun s =>
    (List.replicate (s.hidden.length - count) ()).foldl (fun s _ => s.leaveScope) s

/-- Carry out a simple command. -/
def carryOut (e : Evaluator) (p : Position) (line : Nat) (assignments words : List Word)
    (redirections : List Redirection) : Run Unit := do
  modify ({ · with line, outputStatus := 0 })
  let k ← expandRest e (← know e words)
  let scopes := (← get).hidden.length
  if k.isClosed then modify (·.enterScope)
  let ready ← redirections.mapM (Redirecting.ready e)
  let (kept, outcome) ← Redirecting.carryOutKeeping e [] ready
  let stays := isExec k.target
  andFinally (do
    match outcome with
    | .error stop => if k.isSpecial || stop != .fails then throw stop
    | .ok () =>
        let assigned ← assignments.mapM
          (assignOne e k.isClosed (stays && 1 < k.args.length))
        trace e kept (assigned ++ k.shown)
        carryOutKnown e p k)
    (if stays then Redirecting.discard kept else Redirecting.restore kept)
  leaveScopes scopes

end SkipAudit.Shell.Simple
