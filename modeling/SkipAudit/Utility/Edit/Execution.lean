/-
Carrying out programs that edit texts.

The input is read as it comes, one line further than it is edited where the last line has to be
known as such.  What is written waits until there is enough of it.
-/
import SkipAudit.Utility.Edit.Parser
import SkipAudit.Utility.LineSource
import SkipAudit.Utility.Starting

namespace SkipAudit.Edit

open Utility

/-! ## Manners -/

/-- How texts are edited. -/
structure Manner where
  isQuiet : Bool
  /-- What is written is kept, and takes the place of the file. -/
  keeps : Bool
  /-- What ends a line. -/
  lineEnd : Char
  /-- The width at which a line that is shown is broken, if it is. -/
  width : Nat
  /-- Nothing is read before it is needed, and what is written does not wait. -/
  isUnbuffered : Bool
  encoding : Encoding
  /-- The place in the program that complaints name once it is carried out. -/
  place : Octets

/-! ## The input -/

/-- The input that is still to be edited. -/
structure Source where
  /-- Files that have not been opened yet. -/
  files : List Octets
  /-- The file that is being read, and its descriptor. -/
  current? : Option (Octets × Nat)
  /-- The name of the file that was opened last. -/
  name : Octets
  lines : List Octets
  rest : Octets
  /-- Some file could not be read. -/
  hasFailed : Bool
  /-- What ends the program, if something in the input does. -/
  fault? : Option Octets

/-- The complaint about a file whose bytes cannot be read. -/
def readFault (file : Octets) (e : FileError) : Octets :=
  text "read error on " ++ file ++ text ": " ++ e.reason

/-- What there is to do next for one more line: nothing, or to read on. -/
def readOn (c : Call) (m : Manner) (s : Source) : Action (Source ⊕ Source) := do
  match s.lines, s.current?, s.files with
  | _ :: _, _, _ => return .inr s
  | [], none, [] => return .inr s
  | [], none, file :: files => do
      match ← openInput file with
      | .error e => do
          c.warn (text "can't read " ++ file ++ text ": " ++ e.reason)
          return .inl { s with files, hasFailed := true }
      | .ok fd => return .inl { s with files, current? := some (file, fd), name := file }
  | [], some (file, fd), _ => do
      let finish (s : Source) : Action (Source ⊕ Source) := do
        closeInput fd
        return .inl { s with
          lines := if s.rest = [] then [] else [s.rest], rest := [], current? := none }
      match ← Action.read fd (if m.isUnbuffered then 1 else Action.blockSize) with
      | .error e => return .inr { s with current? := none, fault? := some (readFault file e) }
      | .ok [] => finish s
      | .ok bytes =>
          let (lines, rest) := completeLines m.lineEnd (s.rest ++ bytes)
          return .inl { s with lines, rest }

/-- See to it that the next line is known, if there is one. -/
def lookForLine (c : Call) (m : Manner) (s : Source) : Action Source :=
  Action.repeatUntil s (readOn c m) Action.rounds s

/-! ## The state -/

/-- What is written when a line is done. -/
inductive Waiting where
  | chars (t : Octets)
  /-- What is then in a file. -/
  | file (name : Octets)

/-- A file that is written to. -/
structure Filed where
  name : Octets
  pending : Pending
  /-- The newline behind what was written last is missing. -/
  owesNewline : Bool

/-- The state while a program is carried out. -/
structure Editor where
  source : Source
  /-- The number of the line. -/
  number : Nat
  space : Octets
  /-- A newline stood behind the line. -/
  hasNewline : Bool
  held : Octets
  /-- A newline stood behind what is held. -/
  heldHasNewline : Bool
  /-- Something has been replaced since the line was read. -/
  hasReplaced : Bool
  /-- What is written when the line is done. -/
  queue : List Waiting
  /-- The ranges that have begun, by the place of their command, with the number of the last line
  where it is known. -/
  ranges : List (Nat × Option Nat)
  lastRegex? : Option Regex
  /-- An expression was used again although there was none before. -/
  lacksRegex : Bool
  /-- What was written and not handed over, the newest first. -/
  written : List Octets
  /-- The newline behind what was written last is missing, and comes if there is more. -/
  owesNewline : Bool
  /-- What waits to be written to the standard output. -/
  pending : Pending
  /-- The files that are written to, the oldest last. -/
  files : List Filed
  /-- The files that are read line by line. -/
  readers : List (Octets × Option LineSource)

namespace Editor

/-- Write something. -/
def write (e : Editor) (t : Octets) : Editor :=
  if t = [] then e
  else
    { e with
      written := (if e.owesNewline then '\n' :: t else t) :: e.written, owesNewline := false }

/-- Write a text as a line. -/
def writeLine (m : Manner) (e : Editor) (t : Octets) : Editor :=
  if e.hasNewline then e.write (t ++ [m.lineEnd])
  else { e.write t with owesNewline := true }

/-- The expression that is meant. -/
def regexFor (e : Editor) (r? : Option Regex) : Option Regex := r?.orElse fun _ => e.lastRegex?

/-- The line is the last one, if it is known what comes next. -/
def isLast (e : Editor) : Bool := e.source.lines = []

end Editor

/-! ## Handing over -/

/-- Write something to a descriptor; a failure ends the program. -/
def put (c : Call) (fd : Nat) (name : String) (t : Octets) : Action Unit := do
  if t ≠ [] then
    if let .error e ← Action.write fd t then
      c.die 4 (text "couldn't flush " ++ text name ++ text ": " ++ e.reason)

/-- Write something to the end of a file. -/
def putInto (c : Call) (name t : Octets) : Action Unit := do
  if t ≠ [] then
    if let .ok fd ← Action.openFile name .appending then
      put c fd "<unknown>" t
      Action.request (.close fd)

/-- Write all that waits. -/
def finish (c : Call) (e : Editor) : Action Unit := do
  put c 1 "stdout" e.pending.contents
  for f in e.files.reverse do
    putInto c f.name f.pending.contents

/-- End with a complaint; what waits to be written comes behind it. -/
def fail {α : Type} (c : Call) (m : Manner) (e : Editor) (status : Nat) (t : Octets) :
    Action α := do
  c.warn t
  let written := if m.keeps then [] else e.written
  finish c { e with pending := e.pending.add (m.encoding.encode written.reverse.flatten) }
  Action.exit status

/-- What is written now of what waits, and what waits on. -/
def Manner.ripe (m : Manner) (p : Pending) : Octets × Pending :=
  if m.isUnbuffered then (p.contents, .none) else p.ripe

/-- Hand over what was written, as far as it is for the standard output. -/
def handOver (c : Call) (m : Manner) (e : Editor) : Action Editor := do
  let e := if m.keeps || e.written = [] then e else
    { e with
      written := [], pending := e.pending.add (m.encoding.encode e.written.reverse.flatten) }
  let (now, pending) := m.ripe e.pending
  put c 1 "stdout" now
  return { e with pending }

/-- Write a text as a line to a file; `isWhole`: a newline belongs behind it. -/
def writeTo (c : Call) (m : Manner) (e : Editor) (name t : Octets) (isWhole : Bool) :
    Action Editor := do
  let name := m.encoding.encode name
  let f := (e.files.find? (·.name == name)).getD ⟨name, .none, false⟩
  let t := (if f.owesNewline then [m.lineEnd] else []) ++ t ++ (if isWhole then [m.lineEnd] else [])
  let keep (e : Editor) (pending : Pending) : Editor :=
    { e with files := ⟨name, pending, !isWhole⟩ :: e.files.filter (·.name != name) }
  if name = text "/dev/stdout" then
    let e := if m.keeps then { e with pending := e.pending.add (m.encoding.encode t) }
      else { e with written := t :: e.written }
    return keep e .none
  else if name = text "/dev/stderr" then
    put c 2 "stderr" (m.encoding.encode t)
    return keep e .none
  else
    let (now, pending) := m.ripe (f.pending.add (m.encoding.encode t))
    putInto c name now
    return keep e pending

/-- Write what waits for the end of the line. -/
def writeQueue (c : Call) (m : Manner) (e : Editor) : Action Editor :=
  e.queue.foldlM (fun e w => do
    match w with
    | .chars t => return e.write t
    | .file name =>
        match ← Action.readFile (m.encoding.encode name) with
        | .ok bytes => return e.write (m.encoding.decode bytes)
        | .error .isDirectory => fail c m e 4 (readFault (m.encoding.encode name) .isDirectory)
        | .error _ => return e) { e with queue := [] }

/-! ## Which lines -/

/-- The line is meant by an address. -/
def isMeant (e : Editor) : Address → Editor × Bool
  | .number n => (e, e.number == n)
  | .last => (e, e.isLast)
  | .every first step =>
      (e, if step = 0 then e.number == first
        else first ≤ e.number && (e.number - first) % step == 0)
  | .matching r? =>
      let r? := e.regexFor r?
      ({ e with lastRegex? := r?, lacksRegex := r?.isNone }, r?.any (·.occursIn e.space))

/-- The number of the last line of a range that begins here, where it is known. -/
def lastNumber? (n : Nat) : RangeEnd → Option Nat
  | .address (.number m) => some (max n m)
  | .later k => some (n + k)
  | .multiple k => some (if k = 0 then n else (n / k + 1) * k)
  | .address _ => none

/-- The line is meant by a range, that of the command at some place. -/
def isInRange (e : Editor) (place : Nat) (first : Address) (last : RangeEnd) : Editor × Bool :=
  let without (e : Editor) : Editor := { e with ranges := e.ranges.filter (·.1 != place) }
  let begun? := match e.ranges.lookup place, first with
    | some known?, _ => some known?
    | none, .number 0 => if e.number = 1 then some none else none
    | none, _ => none
  match begun? with
  | some (some n) =>
      if e.number < n then ({ without e with ranges := (place, some n) :: e.ranges }, true)
      else (without e, e.number ≤ n)
  | some none =>
      match last with
      | .address a =>
          let (e, ends) := isMeant e a
          (if ends then without e
            else { without e with ranges := (place, none) :: (without e).ranges }, true)
      | _ => (without e, true)
  | none =>
      let (e, begins) := isMeant e first
      if !begins then (e, false)
      else match lastNumber? e.number last with
        | some n =>
            (if e.number < n then { e with ranges := (place, some n) :: e.ranges } else e, true)
        | none =>
            ({ e with ranges := (place, none) :: e.ranges }, true)

/-- A command is meant for the line. -/
def isSelected (e : Editor) (place : Nat) (s : Selection) : Editor × Bool :=
  let (e, found) := match s.first?, s.until? with
    | none, _ => (e, true)
    | some a, none => isMeant e a
    | some a, some b => isInRange e place a b
  (e, found != s.isInverted)

/-! ## Replacing -/

/-- The case that letters get in a replacement. -/
structure Casing where
  all : CaseChange
  first : CaseChange

/-- A text in some case. -/
def cased (e : Encoding) (k : Casing) : Octets → Octets
  | [] => []
  | c :: t =>
      let change (how : CaseChange) (c : Char) : Char := match how with
        | .upper | .firstUpper => e.raised c
        | .lower | .firstLower => e.lowered c
        | .none => c
      change (if k.first = .none then k.all else k.first) c :: t.map (change k.all)

/-- What stands in the place of a match. -/
def replacementFor (e : Encoding) (m : Regex.Match) : Casing → List Piece → Octets
  | _, [] => []
  | k, .casing c :: ps =>
      let k : Casing := match c with
        | .firstUpper | .firstLower => { k with first := c }
        | c => ⟨c, .none⟩
      replacementFor e m k ps
  | k, p :: ps =>
      let t := match p with
        | .chars t => t
        | .group n => m.group n
        | .casing _ => []
      cased e k t ++ replacementFor e m (if t = [] then k else { k with first := .none }) ps

/-- Replace matches from a spot on: the text, and whether something was replaced.  `count` is how
many matches there were before, and `behind?` where the last one ended; the number bounds how
many there are. -/
def replaceFrom (e : Encoding) (s : Substitution) (r : Regex) :
    Nat → Nat → Option Nat → Regex.Spot → Octets × Bool
  | 0, _, _, spot => (spot.rest, false)
  | n + 1, count, behind?, spot =>
      match r.find? spot with
      | none => (spot.rest, false)
      | some m =>
          let before := spot.upTo m.start
          let isEmpty := m.start.index = m.stop.index
          let step (taken : Octets) (count : Nat) : Octets × Bool :=
            if isEmpty then
              match m.stop.next? with
              | none => (before ++ taken, false)
              | some next =>
                  let (t, found) := replaceFrom e s r n count (some m.stop.index) next
                  (before ++ taken ++ m.stop.rest.take 1 ++ t, found)
            else
              let (t, found) := replaceFrom e s r n count (some m.stop.index) m.stop
              (before ++ taken ++ t, found)
          if isEmpty && behind? = some m.start.index then step [] count
          else
            let count := count + 1
            if count < s.nth then step m.text count
            else
              let new := replacementFor e m ⟨.none, .none⟩ s.replacement
              if s.isGlobal then ((step new count).1, true)
              else (before ++ new ++ m.stop.rest, true)

/-- Replace matches in the line. -/
def replace (m : Manner) (e : Editor) (s : Substitution) : Editor × Bool :=
  match e.regexFor s.regex? with
  | none => ({ e with lacksRegex := true }, false)
  | some r =>
      let e := { e with lastRegex? := some r }
      let (t, found) := replaceFrom m.encoding s r (e.space.length + 2) 0 none (.start e.space)
      if found then ({ e with space := t, hasReplaced := true }, true) else (e, false)

/-! ## Showing -/

/-- A character as it is shown unambiguously. -/
def plainly (c : Char) : Octets :=
  let octal := Nat.toDigits 8 c.toNat
  match c with
  | '\\' => text "\\\\"
  | '\x07' => text "\\a"
  | '\x08' => text "\\b"
  | '\x0c' => text "\\f"
  | '\n' => text "\\n"
  | '\r' => text "\\r"
  | '\t' => text "\\t"
  | '\x0b' => text "\\v"
  | c =>
      if ' ' ≤ c && c ≤ '~' then [c]
      else '\\' :: List.replicate (3 - octal.length) '0' ++ octal

/-- A line as it is shown unambiguously, `width` being how much of it stands there already, and
`most` how wide a line may be; zero stands for no limit. -/
def shownLine (most : Nat) : Nat → Octets → Octets
  | _, [] => ['$', '\n']
  | width, c :: t =>
      let u := plainly c
      if most ≠ 0 && most - 1 < width + u.length then text "\\\n" ++ u ++ shownLine most u.length t
      else u ++ shownLine most (width + u.length) t

/-! ## Commands -/

/-- What happens after a command. -/
inductive Then where
  /-- The command at a place comes next. -/
  | goTo (place : Nat)
  /-- The line is done; `writes`: it is written, unless lines are not. -/
  | done (writes : Bool)
  /-- The line is done, but what is left of it is edited again. -/
  | again
  | quit (status : Nat) (writes : Bool)

/-- Read the next line into the space, or behind what is there. -/
def nextLine (m : Manner) (e : Editor) (appends : Bool) : Editor :=
  match e.source.lines with
  | [] => e
  | l :: ls =>
      { e with
        source := { e.source with lines := ls }
        number := e.number + 1
        space := (if appends then e.space ++ [m.lineEnd] else []) ++
          m.encoding.decode (Text.dropFinal m.lineEnd l)
        hasNewline := l.getLast? = some m.lineEnd }

/-- What the shell writes for a command. -/
def shellText (c : Call) (command : Octets) : Action Octets := do
  let .ok (r, w) ← Action.request .pipe
    | return []
  let child ← Action.fork (Action.toProc do
    Action.request (.close r)
    let _ ← Action.request (.duplicate w 1)
    Action.request (.close w)
    let _ ← becomeAt (text "/bin/sh") [text "sh", text "-c", command] c.environment
    return 127)
  Action.request (.close w)
  let t ← Action.readAll r
  Action.request (.close r)
  let _ ← awaitEnd child
  return match t with
    | .ok t => t
    | .error _ => []

/-- Read the next line of a file that is read line by line, with what ends it. -/
def readerLine (c : Call) (m : Manner) (e : Editor) (name : Octets) :
    Action (Editor × Option Octets) := do
  let file := m.encoding.encode name
  let known? ← match e.readers.lookup file with
    | some known? => pure known?
    | none =>
        match ← openInput (if file = text "/dev/stdin" then ['-'] else file) with
        | .ok fd => pure (some (LineSource.ofInput m.lineEnd fd))
        | .error _ => pure none
  let keep (s? : Option LineSource) : Editor :=
    { e with readers := (file, s?) :: e.readers.filter (·.1 != file) }
  match known? with
  | none => return (keep none, none)
  | some s =>
      match ← s.fill with
      | .ok s =>
          return (keep (some { s with ready := s.ready.drop 1 }), s.ready.head?)
      | .error cause => fail c m e 4 (readFault file cause)

/-- The first line of the space. -/
def firstLine (m : Manner) (t : Octets) : Octets := t.takeWhile (· != m.lineEnd)

/-- See to it that it is known what comes next. -/
def lookAhead (c : Call) (m : Manner) (e : Editor) : Action Editor := do
  let e := { e with source := ← lookForLine c m e.source }
  match e.source.fault? with
  | some t => fail c m e 4 t
  | none => return e

/-- Carry out a command at a place. -/
def carryOut (c : Call) (p : Program) (m : Manner) (place : Nat) (e : Editor) (k : Command) :
    Action (Editor × Then) := do
  let on := place + 1
  let go (e : Editor) : Action (Editor × Then) := return (e, .goTo on)
  let jump (e : Editor) (name : Octets) : Action (Editor × Then) :=
    return (e, if name = [] then .done true else match p.placeOf? name with
      | some n => .goTo n
      | none => .done true)
  let joined (a b : Octets) : Octets := a ++ m.lineEnd :: b
  let isMany := e.space.contains m.lineEnd
  match k.deed with
  | .openBlock | .closeBlock | .label _ => go e
  | .append t => go { e with queue := e.queue ++ [.chars t] }
  | .insert t => go (e.write t)
  | .change t =>
      let isOver := k.selection.isInverted || (e.ranges.lookup place).isNone
      return (if isOver then e.write t else e, .done false)
  | .jump name => jump e name
  | .jumpIf name => if e.hasReplaced then jump { e with hasReplaced := false } name else go e
  | .jumpUnless name => if e.hasReplaced then go { e with hasReplaced := false } else jump e name
  | .delete => return (e, .done false)
  | .deleteFirst =>
      if isMany then
        return ({ e with space := (e.space.dropWhile (· != m.lineEnd)).drop 1 }, .again)
      else return (e, .done false)
  | .hold => go { e with held := e.space, heldHasNewline := e.hasNewline }
  | .holdMore => go { e with held := joined e.held e.space, heldHasNewline := e.hasNewline }
  | .fetch => go { e with space := e.held, hasNewline := e.heldHasNewline }
  | .fetchMore => go { e with space := joined e.space e.held, hasNewline := e.heldHasNewline }
  | .exchange =>
      go { e with
        space := e.held, hasNewline := e.heldHasNewline, held := e.space
        heldHasNewline := e.hasNewline }
  | .list width? => go (e.write (shownLine (width?.getD m.width) 0 (m.encoding.encode e.space)))
  | .next =>
      let e ← lookAhead c m e
      if e.isLast then return (e, .quit 0 true)
      else
        let e ← writeQueue c m (if m.isQuiet then e else e.writeLine m e.space)
        go (nextLine m e false)
  | .nextMore =>
      let e ← lookAhead c m e
      if e.isLast then return (e, .quit 0 true)
      else go (nextLine m (← writeQueue c m e) true)
  | .print => go (e.writeLine m e.space)
  | .printFirst =>
      go (if isMany then e.write (firstLine m e.space ++ [m.lineEnd]) else e.writeLine m e.space)
  | .printNumber => go (e.write (Text.ofNat e.number ++ ['\n']))
  | .quit status isSilent => return (e, .quit status (!isSilent))
  | .readFile name => go { e with queue := e.queue ++ [.file name] }
  | .readLine name => do
      match ← readerLine c m e name with
      | (e, some l) => go { e with queue := e.queue ++ [.chars (m.encoding.decode l)] }
      | (e, none) => go e
  | .writeFile name => go (← writeTo c m e name e.space e.hasNewline)
  | .writeFirst name => go (← writeTo c m e name (firstLine m e.space) (isMany || e.hasNewline))
  | .execute [] => do
      let t ← shellText c (m.encoding.encode e.space)
      go { e with space := m.encoding.decode (Text.dropFinal m.lineEnd t) }
  | .execute command => do
      let t ← shellText c (m.encoding.encode command)
      go (e.write (m.encoding.decode t))
  | .substitute s => do
      match replace m e s with
      | (e, false) => go e
      | (e, true) =>
          let e ← if s.executes then do
              let t ← shellText c (m.encoding.encode e.space)
              pure { e with space := m.encoding.decode (Text.dropFinal m.lineEnd t) }
            else pure e
          let e := if s.prints then e.writeLine m e.space else e
          match s.file? with
          | some name => go (← writeTo c m e name e.space e.hasNewline)
          | none => go e
  | .translate pairs =>
      go { e with space := e.space.map fun c => (pairs.lookup c).getD c }
  | .clear => go { e with space := [] }
  | .printName => go (e.write (m.encoding.decode e.source.name ++ ['\n']))

/-- Carry out the command at a place, if it is meant for the line. -/
def stepAt (c : Call) (p : Program) (m : Manner) (place : Nat) (e : Editor) :
    Action (Editor × Then) := do
  match p[place]? with
  | none => return (e, .done true)
  | some k =>
      let e ← if k.selection.asksForLast then lookAhead c m e else pure e
      match isSelected e place k.selection, k.deed with
      | (e, true), _ => if e.lacksRegex then return (e, .goTo place) else carryOut c p m place e k
      | (e, false), .openBlock =>
          return (e, .goTo (place + 1 + Program.blockLength 0 (p.drop (place + 1))))
      | (e, false), _ => return (e, .goTo (place + 1))

/-- Carry out a program for the line; how it ends is told. -/
def forLine (c : Call) (p : Program) (m : Manner) (e : Editor) : Action (Editor × Then) :=
  Action.repeatUntil (e, .done true) (fun ((e, place) : Editor × Nat) => do
    Action.request .tick
    let (e, t) ← stepAt c p m place e
    if e.lacksRegex then
      fail c m e 1 (m.place ++ text ": no previous regular expression")
    else match t with
      | .goTo n => return .inl (← handOver c m e, n)
      | t => return .inr (e, t)) Action.rounds (e, 0)

/-- What editing an input comes to. -/
structure Outcome where
  editor : Editor
  status : Nat
  /-- The program wants no more input. -/
  hasQuit : Bool

/-- No input. -/
def Source.none : Source := ⟨[], Option.none, [], [], [], false, Option.none⟩

/-- Before the first line. -/
def Editor.start : Editor :=
  { source := .none, number := 0, space := [], hasNewline := true, held := []
    heldHasNewline := true, hasReplaced := false, queue := [], ranges := [], lastRegex? := none
    lacksRegex := false, written := [], owesNewline := false, pending := .none, files := []
    readers := [] }

/-- Leave the lines that were read and not edited to whoever reads the input next. -/
def giveBack (s : Source) : Action Unit := do
  match s.current? with
  | some (_, 0) =>
      let count := Natural.total (s.lines.map List.length) + s.rest.length
      if count ≠ 0 then
        let _ ← Action.request (.seek 0 .here (-(count : Int)))
  | _ => pure ()

/-- Edit some files one behind the other, as a text of its own. -/
def edit (c : Call) (p : Program) (m : Manner) (start : Editor) (files : List Octets) :
    Action Outcome := do
  let start := { start with
    source := { Source.none with files }, number := 0
    held := [], heldHasNewline := true, ranges := [], readers := []
    written := [], owesNewline := start.owesNewline && !m.keeps }
  Action.repeatUntil ⟨start, 0, true⟩ (fun ((e, isAgain) : Editor × Bool) => do
    let atEnd (e : Editor) : Nat := if e.source.hasFailed then 2 else 0
    let e ← if isAgain then pure e else lookAhead c m e
    if !isAgain && e.isLast then return .inr ⟨e, atEnd e, false⟩
    else
      let e := if isAgain then e else nextLine m e false
      let e := { e with hasReplaced := isAgain && e.hasReplaced }
      let (e, ending) ← forLine c p m e
      let writes := match ending with
        | .done writes | .quit _ writes => writes
        | _ => false
      let e := if writes && !m.isQuiet then e.writeLine m e.space else e
      let isSilent := match ending with
        | .quit _ false => true
        | _ => false
      let e ← handOver c m (← if isSilent then pure e else writeQueue c m e)
      match ending with
      | .quit status _ => do
          giveBack e.source
          return .inr ⟨e, if status = 0 then atEnd e else status, true⟩
      | .again => return .inl (e, true)
      | _ => return .inl (e, false)) Action.rounds (start, false)

end SkipAudit.Edit
