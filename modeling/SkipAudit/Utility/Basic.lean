/-
What the programs of every system have in common: how they are called, how they write, and how
they complain.

A complaint begins with the name under which the program was called.  What is written before it
reaches its place before it does.
-/
import SkipAudit.Process.Request
import SkipAudit.Text.Quoting

namespace SkipAudit

/-- How a program was called. -/
structure Call where
  /-- The name under which it was called. -/
  name : Octets
  args : List Octets
  environment : List Octets
  /-- The status after output was lost. -/
  lossStatus : Nat
  /-- It is not told why output was lost, unless there was nowhere to write to. -/
  hidesLoss : Bool

/-- A program that belongs to every system: it does something and comes to a status. -/
abbrev Utility := Call → Action Nat

namespace Call

/-- The value of a variable. -/
def valueOf? (c : Call) (name : String) : Option Octets :=
  c.environment.findSome? (Text.dropStart? (text name ++ ['=']))

/-! ## Language -/

/-- What the variables say of some aspect of the language. -/
def localeOf (c : Call) (aspect : String) : Octets :=
  (["LC_ALL", aspect, "LANG"].findSome? fun name =>
    (c.valueOf? name).filter (· != [])).getD ['C']

/-- The aspects of the language. -/
def aspects : List String :=
  ["LC_CTYPE", "LC_NUMERIC", "LC_TIME", "LC_COLLATE", "LC_MONETARY", "LC_MESSAGES", "LC_PAPER",
   "LC_NAME", "LC_ADDRESS", "LC_TELEPHONE", "LC_MEASUREMENT", "LC_IDENTIFICATION"]

/-- The encoding that the name of a language stands for, if there is such a language. -/
def encodingOf? (name : Octets) : Option Encoding :=
  if name = ['C'] || name = text "POSIX" then some .bytes
  else match Text.dropStart? (text "C.") name with
    | some t =>
        if ((t.takeWhile (· != '@')).filter Char.isAlphanum).map Char.toLower = text "utf8" then
          some .utf8
        else none
    | none => none

/-- How bytes are read as characters. -/
def encoding (c : Call) : Encoding :=
  if aspects.all fun a => (encodingOf? (c.localeOf a)).isSome then
    (encodingOf? (c.localeOf "LC_CTYPE")).getD .bytes
  else .bytes

/-! ## Quotation -/

/-- A text between quotation marks. -/
def quote (c : Call) (t : Octets) : Octets := Quoting.locale.apply c.encoding [] t

/-- A name between quotation marks, as a shell would read it. -/
def quoted (c : Call) (t : Octets) : Octets := Quoting.shellEscapeAlways.apply c.encoding [] t

/-- A name, between quotation marks if a shell would take it for something else. -/
def shown (c : Call) (t : Octets) : Octets := Quoting.shellEscape.apply c.encoding [':'] t

/-! ## Complaints -/

/-- A complaint. -/
def complaint (c : Call) (t : Octets) : Octets := c.name ++ text ": " ++ t ++ ['\n']

/-- Where help is offered. -/
def hint (c : Call) : Octets :=
  text "Try '" ++ c.name ++ text " --help' for more information.\n"

/-- Complain. -/
def warn (c : Call) (t : Octets) : Action Unit := do
  let _ ← Action.write 2 (c.complaint t)

/-- Complain of the arguments, and fail. -/
def misused (c : Call) (status : Nat) (t : Octets) : Action Nat := do
  let _ ← Action.write 2 (c.complaint t ++ c.hint)
  return status

/-- Complain, and end. -/
def die {α : Type} (c : Call) (status : Nat) (t : Octets) : Action α := do
  c.warn t
  Action.exit status

/-- Complain of the arguments, and end. -/
def misuse {α : Type} (c : Call) (status : Nat) (t : Octets) : Action α := do
  Action.exit (← c.misused status t)

end Call

namespace Utility

/-! ## Writing -/

/-- Things to write, those for one stream that stand next to each other put together. -/
def merged : List (Stream × Octets) → List (Stream × List Octets)
  | [] => []
  | (s, t) :: rest =>
      match merged rest with
      | (s', ts) :: rest' => if s = s' then (s, t :: ts) :: rest' else (s, [t]) :: (s', ts) :: rest'
      | [] => [(s, [t])]

/-- Write something to the output; a failure ends the program. -/
def say (c : Call) (t : Octets) : Action Unit := do
  match ← Action.write 1 t with
  | .ok () => return
  | .error e => do
      c.warn (text "write error" ++
        if c.hidesLoss && e ≠ .badDescriptor then [] else text ": " ++ e.reason)
      Action.exit c.lossStatus

/-- Write the parts of a report, and come to its status. -/
def deliver (c : Call) (r : Report) : Action Nat := do
  for (s, ts) in merged r.writes do
    match s with
    | .output => say c ts.flatten
    | .errors => do
        let _ ← Action.write 2 ts.flatten
  return r.status

/-! ## Reading -/

/-- Open an input: a single hyphen stands for what the program is given. -/
def openInput (path : Octets) : Action (Except FileError Nat) :=
  if path = ['-'] then pure (.ok 0) else Action.openFile path .reading

/-- Close an input. -/
def closeInput (fd : Nat) : Action Unit :=
  if fd = 0 then pure () else Action.request (.close fd)

/-- Read a whole input. -/
def readInput (path : Octets) : Action (Except FileError Octets) := do
  match ← openInput path with
  | .error e => return .error e
  | .ok fd =>
      let bytes ← Action.readAll fd
      closeInput fd
      return bytes

/-- The lines of a text, each with what ends it, if it is ended. -/
def linesEnding (lineEnd : Char) : Octets → List Octets
  | [] => []
  | c :: t =>
      if c = lineEnd then [c] :: linesEnding lineEnd t
      else match linesEnding lineEnd t with
        | [] => [[c]]
        | l :: ls => (c :: l) :: ls

/-- The lines of a text, each with its newline if it has one. -/
def linesOf (t : Octets) : List Octets := linesEnding '\n' t

/-- A line without its newline. -/
def bare (l : Octets) : Octets := Text.dropFinal '\n' l

/-- The inputs that are named: what the program is given, if none is. -/
def inputsOr (files : List Octets) : List Octets := if files = [] then [['-']] else files

/-! ## Going through lines as they come -/

/-- The lines that are complete in what has been read, and the rest. -/
def completeLines (lineEnd : Char) (t : Octets) : List Octets × Octets :=
  let ls := linesEnding lineEnd t
  match ls.getLast? with
  | some l => if l.getLast? = some lineEnd then (ls, []) else (ls.dropLast, l)
  | none => ([], [])

/-- What going through a line comes to. -/
structure Passed (σ : Type) where
  state : σ
  out : Octets
  /-- Nothing more is to be read. -/
  isDone : Bool

/-- Go through some lines. -/
def passAll {σ : Type} (step : σ → Octets → Passed σ) : σ → List Octets → List Octets → Passed σ
  | s, outs, [] => ⟨s, outs.reverse.flatten, false⟩
  | s, outs, l :: ls =>
      let p := step s l
      if p.isDone then ⟨p.state, (p.out :: outs).reverse.flatten, true⟩
      else passAll step p.state (p.out :: outs) ls

/-- Go through the lines of an input as they come, and write what comes of them.  The result is
the state at the end, with what went wrong and whether the end was reached early. -/
def passLinesEnding {σ : Type} (lineEnd : Char) (c : Call) (fd : Nat)
    (step : σ → Octets → Passed σ) (s : σ) :
    Action (σ × Option FileError × Bool) :=
  Action.repeatUntil (s, none, false) (fun ((s, rest) : σ × Octets) => do
    match ← Action.read fd Action.blockSize with
    | .error e => return .inr (s, some e, false)
    | .ok [] =>
        let p := passAll step s [] (if rest = [] then [] else [rest])
        say c p.out
        return .inr (p.state, none, p.isDone)
    | .ok bytes =>
        let (ls, rest) := completeLines lineEnd (rest ++ bytes)
        let p := passAll step s [] ls
        say c p.out
        if p.isDone then return .inr (p.state, none, true)
        else return .inl (p.state, rest)) Action.rounds (s, [])

/-- The same for lines that end in newlines. -/
def passLines {σ : Type} (c : Call) (fd : Nat) (step : σ → Octets → Passed σ) (s : σ) :
    Action (σ × Option FileError × Bool) :=
  passLinesEnding '\n' c fd step s

end Utility

end SkipAudit
