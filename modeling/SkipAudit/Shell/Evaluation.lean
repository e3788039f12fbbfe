/-
Carrying out commands.

Each kind of command says what becomes of its parts.  A failure that nobody expects ends the
shell if it is asked to care; the commands that care are the simple ones, pipelines and those in
shells of their own.
-/
import SkipAudit.Shell.Simple

namespace SkipAudit.Shell.Evaluation

open Run

/-! ## Traps -/

/-- Carry out the traps for the signals that have been caught. -/
def carryOutTraps (e : Evaluator) : Run Unit := do
  if (← get).catchesSignals then
    let caught ← ask .takeSignals
    modify fun s =>
      { s with pending := (s.pending ++ caught.filter (!s.pending.contains ·)).mergeSort }
    let old := (← get).trapStatus?
    let status := old.getD (← get).status
    if (← get).pending ≠ [] then
      modify ({ · with trapStatus? := some status })
      for n in (← get).pending do
        let s ← get
        if s.skip = .none then
          set { s with pending := s.pending.filter (· != n) }
          match s.trap? n with
          | some (c :: action) =>
              e.script .plain (c :: action)
              if (← get).skip ≠ .comeBack true then setStatus status
          | _ => pure ()
      modify ({ · with trapStatus? := old })

/-! ## Loops -/

/-- How a round of a loop has ended. -/
inductive Round where
  | goesOn
  | leaves
deriving DecidableEq

/-- What becomes of the commands that are passed over, at the end of a round. -/
def endRound : Run Round := do
  match (← get).skip with
  | .none => return .goesOn
  | .comeBack _ => return .leaves
  | .leave n =>
      modify ({ · with skip := if n ≤ 1 then .none else .leave (n - 1) })
      return .leaves
  | .again n =>
      modify ({ · with skip := if n ≤ 1 then .none else .again (n - 1) })
      return if n ≤ 1 then .goesOn else .leaves

/-- Carry out a loop, inside which there is one loop more. -/
def inLoop (body : Run Unit) : Run Unit := do
  modify fun s => { s with loops := s.loops + 1 }
  body
  modify fun s => { s with loops := s.loops - 1 }

/-- One round of a loop with a test; a result if it is the last one. -/
def testedRound (e : Evaluator) (p : Position) (wanted : Bool) (test body : Command)
    (status : Nat) : Run (Nat ⊕ Nat) := do
  e.command .tested test
  let isSkipping := (← get).skip ≠ .none
  let isBack := match (← get).skip with
    | .comeBack _ => true
    | _ => false
  let found := (← get).status
  match ← endRound with
  | .leaves => return .inr (if isBack then found else status)
  | .goesOn =>
      if isSkipping then return .inl status
      else if (found == 0) != wanted then return .inr status
      else
        e.command { p with isLast := false } body
        let status := (← get).status
        match ← endRound with
        | .goesOn => return .inl status
        | .leaves => return .inr status

/-- Carry out a loop over words. -/
def forWords (e : Evaluator) (p : Position) (name : Octets) (body : Command) :
    List Octets → Run Unit
  | [] => return
  | t :: ts => do
      Run.assign name t
      e.command p.notLast body
      match ← endRound with
      | .goesOn => forWords e p name body ts
      | .leaves => return

/-! ## Choices -/

/-- Some pattern matches a text. -/
def anyMatches (e : Evaluator) (t : Octets) : List Word → Run Bool
  | [] => return false
  | w :: ws => do
      if (← Expansion.pattern e w).accepts t then return true else anyMatches e t ws

/-- Carry out the first choice that matches. -/
def choose (e : Evaluator) (p : Position) (t : Octets) :
    List (List Word × Option Command) → Run Unit
  | [] => setStatus 0
  | (patterns, body?) :: arms => do
      if ← anyMatches e t patterns then
        match body? with
        | some body => e.command p body
        | none => setStatus 0
      else choose e p t arms

/-! ## Shells of their own -/

/-- Become a shell of its own, and carry out a command in it. -/
def carryOutIn (e : Evaluator) (p : Position) (body : Command)
    (redirections : List Redirecting.Ready) : Run Unit := do
  Redirecting.carryOutAll e redirections
  e.command { p with isLast := true } body

/-- Signals that do not reach commands in the background. -/
def keyboardSignals : List Nat := [2, 3]

/-- Get out of the way of the commands in the foreground. -/
def recede (isFirst : Bool) : Run Unit := do
  keyboardSignals.forM shut
  if isFirst then
    ask (.close 0)
    let _ ← ask (.openFile (text "/dev/null") .reading)

/-- Carry out a command in a shell of its own. -/
def subshell (e : Evaluator) (p : Position) (line : Nat) (body : Command)
    (redirections : List Redirection) : Run Unit := do
  modify ({ · with line })
  let ready ← redirections.mapM (Redirecting.ready e)
  let s ← get
  if p.isLast && !s.traps.any (·.2 != []) then
    set s.ofChild
    carryOutIn e p body ready
  else
    let pid ← fork e (carryOutIn e p body ready)
    setStatus (← waitForAll [pid])

/-- Carry out a command in the background. -/
def background (e : Evaluator) (line : Nat) (body : Command)
    (redirections : List Redirection) : Run Unit := do
  modify ({ · with line })
  let ready ← redirections.mapM (Redirecting.ready e)
  let pid ← fork e do
    recede true
    carryOutIn e .plain body ready
  modify (·.addJob [pid])
  setStatus 0

/-- Lead input and output of a process of a pipeline into the pipes. -/
def connect (input? : Option Nat) (output? : Option (Nat × Nat)) : Run Unit := do
  match output? with
  | some (source, _) => ask (.close source)
  | none => pure ()
  match input? with
  | some fd => Redirecting.move fd 0
  | none => pure ()
  match output? with
  | some (_, sink) => Redirecting.move sink 1
  | none => pure ()

/-- Start the processes of a pipeline. -/
def startAll (e : Evaluator) (p : Position) (inBackground : Bool) (input? : Option Nat)
    (isFirst : Bool) : List Command → Run (List Nat)
  | [] => return []
  | c :: cs => do
      let output? ← if cs.isEmpty then pure none else do pure (some (← openPipe))
      let pid ← fork e do
        if inBackground then recede isFirst
        connect input? output?
        e.command { p with isLast := true } c
      match input? with
      | some fd => ask (.close fd)
      | none => pure ()
      match output? with
      | some (_, sink) => ask (.close sink)
      | none => pure ()
      return pid :: (← startAll e p inBackground (output?.map (·.1)) false cs)

/-- Look for the program that a command stands for, if it is clear from its name which one that
is. -/
def lookAhead : Command → Run Unit
  | .simple _ _ (w :: _) _ => do
      match Word.plain? w with
      | some name =>
          if isName name then
            match ← Simple.targetOf name true with
            | .program =>
                let _ ← Programs.find (← Programs.searchPath) name
            | _ => pure ()
      | none => pure ()
  | _ => pure ()

/-- Carry out a pipeline. -/
def pipeline (e : Evaluator) (p : Position) (inBackground : Bool) (parts : List Command) :
    Run Unit := do
  parts.forM lookAhead
  let pids ← startAll e p inBackground none true parts
  if inBackground then
    modify (·.addJob pids)
    setStatus 0
  else setStatus (← waitForAll pids)

/-! ## Every command -/

/-- A failure of the command is one that the shell may have to care for. -/
def isCounted : Command → Bool
  | .simple .. | .pipeline .. | .subshell .. | .background .. => true
  | _ => false

/-- Carry out a command with redirections. -/
def redirected (e : Evaluator) (p : Position) (line : Nat) (body : Command)
    (redirections : List Redirection) : Run Unit := do
  modify ({ · with line })
  let ready ← redirections.mapM (Redirecting.ready e)
  let (kept, outcome) ← Redirecting.carryOutKeeping e [] ready
  andFinally (do
    match outcome with
    | .ok () => e.command p.notLast body
    | .error .ends => throw .ends
    | .error .fails => if (← get).has 'e' && !p.isTested then throw .ends)
    (Redirecting.restore kept)

/-- What becomes of the parts of a command. -/
def carryOut (e : Evaluator) (p : Position) : Command → Run Unit
  | .simple line assignments words redirections =>
      Simple.carryOut e p line assignments words redirections
  | .pipeline inBackground parts => pipeline e p inBackground parts
  | .both first second => do
      e.command .tested first
      if (← get).status = 0 ∧ (← get).skip = .none then e.command p second
  | .either first second => do
      e.command .tested first
      if (← get).status ≠ 0 ∧ (← get).skip = .none then e.command p second
  | .sequence first second => do
      e.command p.notLast first
      if (← get).skip = .none then e.command p second
  | .negated body => do
      e.command .tested body
      setStatus (if (← get).status = 0 then 1 else 0)
  | .background line body redirections => background e line body redirections
  | .subshell line body redirections => subshell e p line body redirections
  | .redirected line body redirections => redirected e p line body redirections
  | .conditional test positive negative? => do
      e.command .tested test
      if (← get).skip = .none then
        if (← get).status = 0 then e.command p positive
        else match negative? with
          | some negative => e.command p negative
          | none => setStatus 0
  | .loop wanted test body =>
      inLoop do setStatus (← iterate (testedRound e p wanted test body) Action.rounds 0)
  | .forEach line name words body => do
      modify ({ · with line })
      let values ← Expansion.allFields e words
      setStatus 0
      inLoop (forWords e p name body values)
  | .choice line subject arms => do
      modify ({ · with line })
      let t ← Expansion.textIn e .text subject
      choose e p t arms
  | .definition name body => do
      modify fun s =>
        { s with functions := ⟨name, body⟩ :: s.functions.filter (·.name != name) }
      setStatus 0

/-- Carry out a command, with the traps around it; a failure that counts may end the shell. -/
def command (e : Evaluator) (p : Position) (c : Command) : Run Unit := do
  ask .tick
  carryOutTraps e
  if (← get).has 'n' then return
  carryOut e p c
  carryOutTraps e
  let s ← get
  if s.has 'e' && !p.isTested && isCounted c && s.status != 0 then throw .ends

/-- Carries out commands; the number bounds how deeply they are nested. -/
def evaluator : Nat → Evaluator
  | 0 => ⟨fun _ _ => throw .ends, fun _ _ => throw .ends⟩
  | n + 1 =>
      { command := fun p c => command (evaluator n) p c
        script := fun p t =>
          Source.carryOut (fun p c => (evaluator n).command p c) p none (.ofText t) }

/-- The evaluator of a shell. -/
def unbounded : Evaluator := evaluator Action.rounds

end SkipAudit.Shell.Evaluation
