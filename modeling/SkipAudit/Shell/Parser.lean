/-
Commands, read from a script.

The grammar is read by recursive descent, one complete line of commands after the other.  A
document stands behind the line that announces it; so a line is read once to find its documents
and once more with the documents known.
-/
import SkipAudit.Shell.Lexer

namespace SkipAudit.Shell

namespace Parser

open Parse Lexer

/-- Say what the next token may be taken for. -/
def expecting (e : Expected) : Parse Unit := modify ({ · with expected := e })

/-- Have the last token read once more. -/
def hold : Parse Unit := modify ({ · with isHeld := true })

/-- Have the last token read once more, as the end of the script. -/
def holdEnd : Parse Unit := modify ({ · with isHeld := true, last := .ended })

/-- The word that was read last. -/
def lastWord : Parse Word := return (← get).word

/-- The line that reading has come to. -/
def lineNow : Parse Nat := return (← get).line

variable (commands : CommandReader)

/-- The next token. -/
def readToken : Parse Token := readTokenWith commands

/-- Read a token that has to be a certain one. -/
def expect (t : Token) : Parse Unit := do
  if (← readToken commands) ≠ t then unexpected (some t)

/-- Read a list that has at least one command.  At the end of the script there is none, and what
has to come behind the list is missing as well. -/
def someList : Parse Command := do
  return (← commands (.list false false)).getD (.simple 0 [] [] [])

/-! ## Redirections -/

/-- Announce a document; its text is that of an earlier reading, if it is known. -/
def announce (stripsTabs : Bool) : Parse Word := do
  let r ← get
  let endMark := r.word.flatMap fun
    | .chars t _ => t
    | _ => []
  let a : Announced := ⟨r.nextDocument, endMark, stripsTabs, !r.isQuoted⟩
  modify fun r => { r with announced := r.announced ++ [a], nextDocument := r.nextDocument + 1 }
  return (r.known.lookup r.nextDocument).getD []

/-- Read the word of a redirection. -/
def redirection : Parse Redirection := do
  let (fd, arrow) := (← get).arrow
  if let .document _ := arrow then
    modify fun r => { r with expected := { r.expected with endMark := true } }
  if (← readToken commands) ≠ .word then unexpected none
  let w ← lastWord
  match arrow with
  | .file opening => return .file fd opening w
  | .document stripsTabs => return .document fd (← announce stripsTabs)
  | .copy =>
      match w with
      | [.chars [c] false] =>
          match Text.digit? c with
          | some d => return .copy fd d
          | none => return if c = '-' then .close fd else .copyNamed fd w
      | _ => return .copyNamed fd w

/-- Read the redirections behind a compound command. -/
def redirections : Parse (List Redirection) := do
  expecting .command
  iterate (fun (rs : List Redirection) => do
    if (← readToken commands) = .redirection then return .inl (rs ++ [← redirection commands])
    else
      hold
      return .inr rs) rounds []

/-! ## Simple commands -/

/-- Names that no function may have. -/
def reservedNames : List Octets :=
  [".", ":", "break", "continue", "eval", "exec", "exit", "export", "readonly", "return", "set",
   "shift", "times", "trap", "unset"].map text

/-- Read the definition of a function, from the closing parenthesis on. -/
def definition (w : Word) : Parse Command := do
  expect commands .rightParen
  match Word.plain? w with
  | none => fail (text "Bad function name")
  | some name =>
      if !isName name || reservedNames.contains name then fail (text "Bad function name")
      else
        expecting .commandLater
        match ← commands .command with
        | some body => return .definition name body
        | none => unexpected none

/-- A simple command on the way. -/
structure Simple where
  assignments : List Word
  words : List Word
  redirections : List Redirection
  /-- The last thing read was the first word. -/
  mayDefine : Bool

/-- Read a simple command. -/
def simple : Parse Command := do
  let line ← lineNow
  iterate (fun (s : Simple) => do
    expecting { Expected.nothing with aliases := s.words.isEmpty }
    match ← readToken commands with
    | .word =>
        let w ← lastWord
        if s.words.isEmpty && w.isAssignment then
          return .inl { s with assignments := s.assignments ++ [w] }
        else return .inl { s with words := s.words ++ [w], mayDefine := s.words.isEmpty }
    | .redirection =>
        let r ← redirection commands
        return .inl { s with redirections := s.redirections ++ [r] }
    | t =>
        match t, s.words with
        | .leftParen, [w] =>
            if s.assignments.isEmpty && s.redirections.isEmpty then
              return .inr (← definition commands w)
            else
              hold
              return .inr (.simple line s.assignments s.words s.redirections)
        | _, _ =>
            hold
            return .inr (.simple line s.assignments s.words s.redirections)) rounds
    ⟨[], [], [], false⟩

/-! ## Compound commands -/

/-- Read what follows the test of a conditional. -/
def conditional : Parse Command := do
  let test ← someList commands
  expect commands (.reserved .thenWord)
  let positive ← someList commands
  let arms ← iterate (fun (arms : List (Command × Command)) => do
    if (← readToken commands) = .reserved .elifWord then
      let test ← someList commands
      expect commands (.reserved .thenWord)
      return .inl ((test, ← someList commands) :: arms)
    else return .inr arms) rounds []
  let last ← if (← get).last = .reserved .elseWord then do pure (some (← someList commands))
    else do
      hold
      pure none
  return .conditional test positive
    (arms.foldl (fun negative (test, positive) =>
      some (.conditional test positive negative)) last)

/-- Read a loop with a test. -/
def loop (wanted : Bool) : Parse Command := do
  let test ← someList commands
  expect commands (.reserved .doWord)
  return .loop wanted test (← someList commands)

/-- Read a loop over words. -/
def forEach (line : Nat) : Parse Command := do
  let t ← readToken commands
  let name? := Word.plain? (← lastWord)
  match if t = .word && !(← get).isQuoted then name? else none with
  | none => fail (text "Bad for loop variable")
  | some name =>
      if !isName name then fail (text "Bad for loop variable")
      else
        expecting .commandLater
        let words ← if (← readToken commands) = .reserved .inWord then do
            let words ← iterate (fun (ws : List Word) => do
              if (← readToken commands) = .word then return .inl (ws ++ [← lastWord])
              else return .inr ws) rounds []
            let t := (← get).last
            if t ≠ .newline && t ≠ .semicolon then unexpected none
            pure words
          else do
            if (← get).last ≠ .semicolon then hold
            pure [[.mark, .allArguments, .mark]]
        expecting .commandLater
        expect commands (.reserved .doWord)
        return .forEach line name words (← someList commands)

/-- The word of a pattern, whatever token it was taken for. -/
def patternWord : Parse Word := do
  match (← get).last with
  | .reserved r => return [.chars r.spelling false]
  | _ => lastWord

/-- Read the patterns of an arm, up to the parenthesis. -/
def patterns : Parse (List Word) := do
  if (← get).last = .leftParen then
    let _ ← readToken commands
  iterate (fun (ws : List Word) => do
    let ws := ws ++ [← patternWord]
    if (← readToken commands) = .pipe then
      let _ ← readToken commands
      return .inl ws
    else return .inr ws) rounds []

/-- Read a choice between patterns, up to its end. -/
def choice (line : Nat) : Parse Command := do
  if (← readToken commands) ≠ .word then unexpected (some .word)
  let subject ← lastWord
  expecting .commandLater
  expect commands (.reserved .inWord)
  let arms ← iterate (fun (arms : List (List Word × Option Command)) => do
    expecting { Expected.nothing with newlines := true, reserved := true }
    if (← readToken commands) = .reserved .esacWord then return .inr arms
    else
      let ps ← patterns commands
      if (← get).last ≠ .rightParen then unexpected (some .rightParen)
      let arms := arms ++ [(ps, ← commands (.list false true))]
      expecting { Expected.nothing with newlines := true, reserved := true }
      match ← readToken commands with
      | .reserved .esacWord => return .inr arms
      | .caseEnd => return .inl arms
      | _ => unexpected (some .caseEnd)) rounds []
  return .choice line subject arms

/-- The command with redirections around it. -/
def withRedirections (line : Nat) (c : Command) : List Redirection → Command
  | [] => c
  | rs =>
      match c with
      | .subshell l body _ => .subshell l body rs
      | c => .redirected line c rs

/-- Read a command. -/
def command : Parse Command := do
  let line ← lineNow
  let closed (t : Token) (c : Command) : Parse Command := do
    expect commands t
    return withRedirections line c (← redirections commands)
  match ← readToken commands with
  | .reserved .ifWord => do closed (.reserved .fiWord) (← conditional commands)
  | .reserved .whileWord => do closed (.reserved .doneWord) (← loop commands true)
  | .reserved .untilWord => do closed (.reserved .doneWord) (← loop commands false)
  | .reserved .forWord => do closed (.reserved .doneWord) (← forEach commands line)
  | .reserved .caseOf =>
      let c ← choice commands line
      return withRedirections line c (← redirections commands)
  | .leftParen => do closed .rightParen (.subshell line (← someList commands) [])
  | .reserved .leftBrace => do closed (.reserved .rightBrace) (← someList commands)
  | .word | .redirection =>
      hold
      simple commands
  | _ => unexpected none

/-! ## Lists -/

/-- Read a pipeline. -/
def pipeline : Parse Command := do
  let negated := (← readToken commands) = .reserved .bang
  if negated then expecting .command else hold
  let first ← command commands
  let parts ← iterate (fun (parts : List Command) => do
    if (← readToken commands) = .pipe then
      expecting .commandLater
      return .inl (parts ++ [← command commands])
    else
      hold
      return .inr parts) rounds [first]
  let c := if parts.length = 1 then first else .pipeline false parts
  return if negated then .negated c else c

/-- Read pipelines joined by what decides whether the next is carried out. -/
def conditionals : Parse Command := do
  let first ← pipeline commands
  iterate (fun (c : Command) => do
    match ← readToken commands with
    | .andThen =>
        expecting .commandLater
        return .inl (.both c (← pipeline commands))
    | .orElse =>
        expecting .commandLater
        return .inl (.either c (← pipeline commands))
    | _ =>
        hold
        return .inr c) rounds first

/-- The command carried out in the background. -/
def inBackground : Command → Command
  | .pipeline _ parts => .pipeline true parts
  | .redirected line c rs => .background line c rs
  | c => .background 0 c []

/-- Read a list of commands. -/
def list (isLine mayBeEmpty : Bool) : Parse (Option Command) :=
  iterate (fun (c? : Option Command) => do
    expecting { Expected.command with newlines := !isLine }
    let t ← readToken commands
    if t = .newline then
      readDocuments commands
      return .inr c?
    else if t = .ended then
      readDocuments commands
      holdEnd
      return .inr c?
    else
      hold
      if (mayBeEmpty || (c?.isSome && !isLine)) && t.endsList then return .inr c?
      else
        let c ← conditionals commands
        let t ← readToken commands
        let c := if t = .ampersand then inBackground c else c
        let c := match c? with
          | some b => .sequence b c
          | none => c
        match t with
        | .newline | .ended =>
            hold
            return .inl (some c)
        | .ampersand | .semicolon => return .inl (some c)
        | _ =>
            if isLine then unexpected none
            hold
            return .inr (some c)) rounds none

/-- Read the parenthesis behind a list, and the documents announced in the list. -/
def closing : Parse Unit := do
  expect commands .rightParen
  readDocuments commands

end Parser

/-- Read what is asked for; the number bounds the depth. -/
def readCommands : Nat → CommandReader
  | 0 => fun _ => throw .incomplete
  | n + 1 => fun
      | .list isLine mayBeEmpty => Parser.list (readCommands n) isLine mayBeEmpty
      | .command => do return some (← Parser.command (readCommands n))
      | .closing => do
          Parser.closing (readCommands n)
          return none

/-! ## One line after the other -/

/-- The part of a script that is still to be read. -/
structure Script where
  rest : Octets
  line : Nat
  /-- Nothing comes behind it. -/
  isComplete : Bool
deriving DecidableEq, Repr

/-- What the next line of a script is. -/
inductive NextLine where
  /-- There is no more. -/
  | ended
  | incomplete
  | bad (line : Nat) (message : Octets)
  /-- Commands; `isLast`: the script ends behind them, and not with a newline. -/
  | commands (c : Option Command) (isLast : Bool) (rest : Script)

namespace Script

/-- A script of which everything is there. -/
def ofText (t : Octets) : Script := ⟨t, 1, true⟩

/-- How deeply commands may be nested. -/
def depthLimit : Nat := 100000

/-- The reader at the beginning of a line. -/
def reader (s : Script) (aliases : List (Octets × Octets)) (known : List (Nat × Word)) :
    Reader :=
  { frames := [⟨s.rest, none⟩], line := s.line, isComplete := s.isComplete, aliases
    expected := .nothing, isHeld := false, last := .newline, word := [], isQuoted := false
    arrow := (0, .copy), announced := [], nextDocument := 0, known, found := [] }

/-- Read a line with some documents known. -/
def readLine (s : Script) (aliases : List (Octets × Octets)) (known : List (Nat × Word)) :
    Except Fault (Option Command × Reader) :=
  (readCommands depthLimit (.list true false)).run (s.reader aliases known)

/-- Read a line again until all its documents are known; the number bounds how often. -/
def readFully (s : Script) (aliases : List (Octets × Octets)) :
    Nat → Except Fault (Option Command × Reader) → Except Fault (Option Command × Reader)
  | 0, found => found
  | _ + 1, .error e => .error e
  | n + 1, .ok (_, r) => readFully s aliases n (s.readLine aliases r.found)

/-- The next line of a script, with some aliases. -/
def nextLine (s : Script) (aliases : List (Octets × Octets)) : NextLine :=
  let first := s.readLine aliases []
  let again := match first with
    | .ok (_, r) => r.found.length
    | .error _ => 0
  match s.readFully aliases again first with
  | .error .incomplete => if s.isComplete then .bad s.line (text "too complex") else .incomplete
  | .error (.badSyntax line message) => .bad line message
  | .ok (c, r) =>
      if c.isNone && r.last = .ended then .ended
      else .commands c (r.last == .ended) ⟨r.frames.flatMap (·.text), r.line, s.isComplete⟩

/-- The word that a text is, read as a document. -/
def document (t : Octets) : Word :=
  let parse : Parse Word := do
    let (d, _) ← Lexer.draftFrom (readCommands depthLimit) .double (some ⟨['\x00'], false⟩)
      (← Parse.nextJoined)
    return Glyph.toWord d.glyphs.reverse
  match parse.run ((ofText t).reader [] []) with
  | .ok (w, _) => w
  | .error _ => [.chars t true]

end Script

end SkipAudit.Shell
