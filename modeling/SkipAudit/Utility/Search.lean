/-
The programs that search for lines that match an expression.
-/
import SkipAudit.Regex.Parser
import SkipAudit.Utility.Globs
import SkipAudit.Utility.Quantity
import SkipAudit.Utility.Traversal

namespace SkipAudit.Utility

namespace Search

open Regex (Spot Match)

/-! ## Matching lines -/

/-- What a search is for. -/
structure Query where
  encoding : Encoding
  expressions : List Regex
  wholeLines : Bool
  wholeWords : Bool
  inverts : Bool

namespace Query

/-- The longest match at a spot that is a word of its own. -/
def wordAt? (q : Query) (r : Regex) (s : Spot) : Option Match :=
  let isWord := q.encoding.isWordChar
  if s.before?.any isWord then none
  else (((r.stops s).filter fun t => !t.rest.head?.any isWord).foldl (fun best? t =>
    match best? with
    | some (best : Spot) => if best.index < t.index then some t else best?
    | none => some t) none).map (⟨s, ·⟩)

/-- The first match at a spot or later; the number bounds how far it is looked for. -/
def findWithin? (at? : Spot → Option Match) : Nat → Spot → Option Match
  | 0, _ => none
  | n + 1, s =>
      match at? s with
      | some m => some m
      | none => s.next?.bind (findWithin? at? n)

/-- The first match of an expression from a spot on. -/
def findOne? (q : Query) (r : Regex) (s : Spot) : Option Match :=
  if q.wholeLines then
    (Regex.both (.lineStart false) (.both (.group 0 r) (.lineEnd false))).find? s
  else if q.wholeWords then findWithin? (q.wordAt? r) (s.rest.length + 1) s
  else r.find? s

/-- The first match of any expression from a spot on, the longest if there are several. -/
def find? (q : Query) (s : Spot) : Option Match :=
  q.expressions.foldl (fun best? r =>
    match best?, q.findOne? r s with
    | some (best : Match), some m =>
        if m.start.index < best.start.index ||
            (m.start.index == best.start.index && best.stop.index < m.stop.index) then some m
        else best?
    | none, found => found
    | some _, none => best?) none

/-- A line is selected. -/
def selects (q : Query) (line : Octets) : Bool :=
  (q.find? (.start (q.encoding.decode line))).isSome != q.inverts

/-- All matches in a line that are not empty, each with the number of bytes in front; the first
number bounds how many there are. -/
def allFrom (q : Query) : Nat → Nat → Spot → List (Nat × Octets)
  | 0, _, _ => []
  | n + 1, offset, s =>
      match q.find? s with
      | none => []
      | some m =>
          let before := offset + (q.encoding.encode (s.upTo m.start)).length
          let found := q.encoding.encode m.text
          if m.start.index < m.stop.index then
            (before, found) :: allFrom q n (before + found.length) m.stop
          else match m.stop.next? with
            | some t => allFrom q n (before + (q.encoding.encode (m.stop.upTo t)).length) t
            | none => []

end Query

/-! ## What is shown -/

/-- How files with bytes that are no text are treated. -/
inductive Binary where
  /-- That something matches is told. -/
  | told
  | text
  | left
deriving DecidableEq

/-- The words for these. -/
def binaryWords : List (String × Binary) :=
  [("binary", .told), ("text", .text), ("without-match", .left)]

/-- How the result of a search is shown. -/
structure Display where
  counts : Bool
  namesMatching : Bool
  namesOthers : Bool
  isQuiet : Bool
  numbers : Bool
  offsets : Bool
  onlyMatches : Bool
  /-- A line of a file is shown with the name of the file. -/
  names : Bool
  /-- A zero byte stands behind the name of a file. -/
  endsNames : Bool
  /-- A tab stands in front of the line. -/
  aligns : Bool
  colors : Bool
  limit? : Option Nat
  before : Nat
  after : Nat
  divider? : Option Octets
  binary : Binary
  lineEnd : Char

/-- A line with its number and the place where it begins. -/
structure Line where
  number : Nat
  offset : Nat
  content : Octets

/-- A search through one input, on the way. -/
structure State where
  number : Nat
  offset : Nat
  found : Nat
  /-- The place behind the last line that was selected. -/
  behind : Nat
  /-- The lines before this one that are not shown yet, the newest first. -/
  waiting : List Line
  /-- How many lines are still shown behind the last selected one. -/
  trailing : Nat
  /-- The number of the last line that was shown. -/
  shown : Nat
  /-- There are bytes that are no text. -/
  isBinary : Bool
  /-- A line that is no text would have been shown. -/
  hasStray : Bool

/-- Before the first line. -/
def State.start : State := ⟨0, 0, 0, 0, [], 0, 0, false, false⟩

namespace Display

/-- Lines are shown. -/
def showsLines (d : Display) : Bool :=
  !d.counts && !d.namesMatching && !d.namesOthers && !d.isQuiet

/-- A text in a color, if colors are wanted. -/
def painted (d : Display) (color : String) (t : Octets) : Octets :=
  if d.colors then
    text "\x1b[" ++ text color ++ text "m\x1b[K" ++ t ++ text "\x1b[m\x1b[K"
  else t

/-- What stands in front of a line. -/
def front (d : Display) (name : Octets) (sign : Char) (l : Line) : Octets :=
  let sign := d.painted "36" [sign]
  (if d.names then
    d.painted "35" name ++ (if d.endsNames then [Octets.nul] else sign) else []) ++
    (if d.numbers then d.painted "32" (Text.ofNat l.number) ++ sign else []) ++
    (if d.offsets then d.painted "32" (Text.ofNat l.offset) ++ sign else []) ++
    (if d.aligns && (d.names || d.numbers || d.offsets) && l.content ≠ [] then ['\t'] else [])

/-- A line with its matches in a color; what stands in front of the rest has been counted. -/
def withColors (d : Display) (line : Octets) (matched : List (Nat × Octets)) : Octets :=
  let (t, place) := matched.foldl (fun (t, place) (offset, m) =>
    (t ++ (line.drop place).take (offset - place) ++ d.painted "01;31" m, offset + m.length))
    (([], 0) : Octets × Nat)
  t ++ line.drop place

/-- A selected line, or the matches in it. -/
def selected (d : Display) (q : Query) (name : Octets) (l : Line) : Octets :=
  let all := fun (_ : Unit) =>
    q.allFrom (l.content.length + 1) 0 (.start (q.encoding.decode l.content))
  if d.onlyMatches then
    if q.inverts then []
    else (all ()).flatMap fun (offset, m) =>
      d.front name ':' { l with offset := l.offset + offset } ++ d.painted "01;31" m ++
        [d.lineEnd]
  else
    d.front name ':' l ++
      (if d.colors && !q.inverts then d.withColors l.content (all ()) else l.content) ++
      [d.lineEnd]

/-- A line near a selected one. -/
def nearby (d : Display) (name : Octets) (l : Line) : Octets :=
  if d.onlyMatches then [] else d.front name '-' l ++ l.content ++ [d.lineEnd]

/-- The line between parts that are not next to each other. -/
def divider (d : Display) (s : State) (first : Nat) : Octets :=
  match d.divider? with
  | some t =>
      if (0 < d.before || 0 < d.after) && s.shown ≠ 0 && s.shown + 1 < first then
        d.painted "36" t ++ ['\n']
      else []
  | none => []

/-- The limit is reached. -/
def isFull (d : Display) (s : State) : Bool := d.limit?.any (· ≤ s.found)

/-- Go through a line. -/
def step (d : Display) (q : Query) (name : Octets) (s : State) (l : Octets) : Passed State :=
  let line : Line := ⟨s.number + 1, s.offset, Text.dropFinal d.lineEnd l⟩
  let s := { s with number := s.number + 1, offset := s.offset + l.length }
  if d.isFull s then
    if s.trailing = 0 || q.selects line.content then ⟨s, [], true⟩
    else
      ⟨{ s with trailing := s.trailing - 1, shown := line.number }, d.nearby name line,
        s.trailing = 1⟩
  else if q.selects line.content then
    let s := { s with found := s.found + 1, behind := s.offset }
    let isLast := d.isFull s
    if !d.showsLines then
      ⟨s, [], isLast || d.isQuiet || d.namesMatching || d.namesOthers⟩
    else if s.isBinary && d.binary ≠ .text then ⟨s, [], true⟩
    else if d.binary ≠ .text && (q.encoding.decode line.content).any q.encoding.isStray then
      ⟨{ s with hasStray := true }, [], true⟩
    else
      let before := s.waiting.reverse
      let first := (before.head?.map (·.number)).getD line.number
      let out := d.divider s first ++ before.flatMap (d.nearby name) ++ d.selected q name line
      ⟨{ s with waiting := [], trailing := d.after, shown := line.number }, out,
        isLast && d.after = 0⟩
  else if 0 < s.trailing && d.showsLines then
    ⟨{ s with trailing := s.trailing - 1, shown := line.number }, d.nearby name line, false⟩
  else ⟨{ s with waiting := (line :: s.waiting).take d.before }, [], false⟩

/-- What is shown at the end of an input. -/
def ending (d : Display) (name : Octets) (s : State) : Octets :=
  let named : Octets := d.painted "35" name ++ [if d.endsNames then Octets.nul else '\n']
  if d.isQuiet then []
  else if d.namesMatching then (if 0 < s.found then named else [])
  else if d.namesOthers then (if s.found = 0 then named else [])
  else if d.counts then
    (if d.names then
      d.painted "35" name ++ (if d.endsNames then [Octets.nul] else d.painted "36" [':'])
    else []) ++ Text.ofNat s.found ++ ['\n']
  else []

end Display

/-! ## Inputs -/

/-- Go through an input; what is read together is looked through for bytes that are no text
before any line of it is shown. -/
def scan (c : Call) (d : Display) (q : Query) (name : Octets) (fd : Nat) :
    Action (State × Option FileError) :=
  Action.repeatUntil (.start, none) (fun ((s, rest) : State × Octets) => do
    match ← Action.read fd Action.blockSize with
    | .error e => return .inr (s, some e)
    | .ok [] =>
        let p := passAll (d.step q name) s [] (if rest = [] then [] else [rest])
        say c p.out
        return .inr (p.state, none)
    | .ok bytes =>
        let (ls, rest) := completeLines d.lineEnd (rest ++ bytes)
        let isBinary := s.isBinary || d.lineEnd ≠ Octets.nul && bytes.contains Octets.nul
        if isBinary && d.binary = .left then return .inr ({ s with found := 0 }, none)
        let p := passAll (d.step q name) { s with isBinary } [] ls
        say c p.out
        if p.isDone then return .inr (p.state, none)
        else return .inl (p.state, rest)) Action.rounds (.start, [])

/-- What becomes of directories. -/
inductive Descent where
  | read
  | recurse
  | skip
deriving DecidableEq, Repr

/-- The words for these. -/
def descentWords : List (String × Descent) :=
  [("read", .read), ("recurse", .recurse), ("skip", .skip)]

/-- Which files are searched. -/
structure Choice where
  descent : Descent
  /-- Links are followed below directories. -/
  follows : Bool
  skipsDevices : Bool
  included : List Glob
  excluded : List Glob
  excludedDirectories : List Glob

/-- The name or an end of a path that begins behind a slash matches. -/
def matchesEnd (gs : List Glob) (path : Octets) : Bool :=
  let bare := withoutSlashes path
  let ends := (List.range (Text.cutAt '/' bare).length).map fun i =>
    (List.intersperse ['/'] ((Text.cutAt '/' bare).drop i)).flatten
  gs.any fun g => ends.any g.accepts

/-- A file is searched by its name. -/
def Choice.takes (k : Choice) (path : Octets) : Bool :=
  (k.included.isEmpty || matchesEnd k.included path) && !matchesEnd k.excluded path

/-- The files below a path, with their paths; the number bounds the depth. -/
def Choice.filesBelow (k : Choice) (fs : FileSystem) :
    Nat → List Nat → Octets → Entry → List Octets
  | 0, _, _, _ => []
  | fuel + 1, above, path, e =>
      let e := if k.follows && isLinkEntry e then ((fs.entry ⟨path⟩).toOption).getD e else e
      match e with
      | .dir a l =>
          if matchesEnd k.excludedDirectories path || above.contains a.identity then []
          else l.entries.flatMap fun (n, e) =>
            Choice.filesBelow k fs fuel (a.identity :: above) (inside path n) e
      | .file _ => if k.takes path then [path] else []
      | _ => []

/-- The files that an operand stands for. -/
def Choice.filesAt (k : Choice) (fs : FileSystem) (path : Octets) : List Octets :=
  if path = ['-'] then [path]
  else match fs.entry ⟨path⟩ with
    | .ok (.dir a l) =>
        match k.descent with
        | .skip => []
        | .read => if matchesEnd k.excludedDirectories path then [] else [path]
        | .recurse => k.filesBelow fs 1000 [] path (.dir a l)
    | .ok (.file _) => if k.takes path then [path] else []
    | .ok (.device ..) => if k.skipsDevices then [] else [path]
    | _ => [path]

/-- The result of a search through several inputs. -/
structure Outcome where
  hasFound : Bool
  hasFailed : Bool

/-- How inputs are named and what is told of them. -/
structure Manner where
  isSilent : Bool
  /-- The name of what the program is given. -/
  label : Octets
  /-- The directory that is searched was not named. -/
  isUnnamed : Bool

/-- Search an input. -/
def searchInput (c : Call) (d : Display) (q : Query) (k : Manner) (o : Outcome)
    (file : Octets) : Action Outcome := do
  let name := if file = ['-'] then k.label
    else if k.isUnnamed then (Text.dropStart? ['.', '/'] file).getD file else file
  let complain (t : Octets) : Action Outcome := do
    if !k.isSilent then c.warn (name ++ text ": " ++ t)
    return { o with hasFailed := true }
  match ← openInput file with
  | .error e => complain e.reason
  | .ok fd => do
      let source ← Action.request (.inspect fd)
      let target ← Action.request (.inspect 1)
      let isOwnOutput : Bool := match source, target with
        | some (.file a), some (.file b) => a = b && fd ≠ 0 && d.showsLines && d.limit? ≠ some 1
        | _, _ => false
      if isOwnOutput then
        closeInput fd
        complain (text "input file is also the output")
      else
        let place ← Action.request (.seek fd .here 0)
        let (s, fault?) ← scan c d q name fd
        if d.isFull s && fd = 0 then
          if let .ok n := place then
            let _ ← Action.request (.seek fd .start (n + s.behind : Nat))
        closeInput fd
        match fault? with
        | some e => complain e.reason
        | none =>
            if d.binary = .told && d.showsLines && (s.hasStray || s.isBinary && 0 < s.found) then
              c.warn (name ++ text ": binary file matches")
            say c (d.ending name s)
            let counts := if d.namesOthers then s.found = 0 else 0 < s.found
            return { o with hasFound := o.hasFound || counts }

/-- Search inputs one after the other, up to the first match if nothing is shown. -/
def searchAll (c : Call) (d : Display) (q : Query) (k : Manner) :
    Outcome → List Octets → Action Nat
  | o, [] => return if o.hasFailed then 2 else if o.hasFound then 0 else 1
  | o, file :: files => do
      let o ← searchInput c d q k o file
      if d.isQuiet && o.hasFound then return 0 else searchAll c d q k o files

/-! ## The program -/

/-- The options with a number as their name, gathered into one. -/
def contextOf (p : Parsed) : Option Octets :=
  let digits := (p.options.filter fun o => o.1.isDigit).map (·.1)
  if digits.isEmpty then p.value? 'C' else some digits

/-- The expressions in a text, one in each line. -/
def expressionsIn (isFixed : Bool) (s : Regex.Style) (t : Octets) :
    Except Regex.Fault (List Regex) :=
  (Text.cutAt '\n' t).mapM fun e =>
    let e := s.encoding.decode e
    if isFixed then .ok (Regex.ofText s.same e) else Regex.parse s e

/-- The text of all expressions that the options give; none of them may be left. -/
def patternsOf (c : Call) (p : Parsed) : Action (Option (List Octets)) := do
  if !p.has 'e' && !p.has 'f' then return none
  let given ← (p.options.filter fun o => o.1 == 'e' || o.1 == 'f').mapM fun o => do
    if o.1 = 'e' then return [o.2]
    else
      match ← readInput o.2 with
      | .ok t => return if t = [] then [] else [bare t]
      | .error e => c.die 2 (o.2 ++ text ": " ++ e.reason)
  return some given.flatten

/-- How the program is used. -/
def usage (c : Call) : Octets :=
  text "Usage: " ++ c.name ++ text " [OPTION]... PATTERNS [FILE]...\n" ++ c.hint

/-- The words of the options. -/
def words : List Word :=
  [("extended-regexp", 'E', .none), ("fixed-regexp", 'F', .none), ("fixed-strings", 'F', .none),
   ("basic-regexp", 'G', .none), ("perl-regexp", 'P', .none), ("ignore-case", 'i', .none),
   ("no-ignore-case", 'ι', .none), ("regexp", 'e', .needed), ("file", 'f', .needed),
   ("invert-match", 'v', .none), ("word-regexp", 'w', .none), ("line-regexp", 'x', .none),
   ("count", 'c', .none), ("only-matching", 'o', .none), ("files-with-matches", 'l', .none),
   ("files-without-match", 'L', .none), ("quiet", 'q', .none), ("silent", 'q', .none),
   ("no-messages", 's', .none), ("line-number", 'n', .none), ("byte-offset", 'b', .none),
   ("no-filename", 'h', .none), ("with-filename", 'H', .none), ("label", 'λ', .needed),
   ("initial-tab", 'T', .none), ("null", 'Z', .none), ("null-data", 'z', .none),
   ("max-count", 'm', .needed), ("after-context", 'A', .needed),
   ("before-context", 'B', .needed), ("context", 'C', .needed), ("text", 'a', .none),
   ("binary-files", 'β', .needed), ("binary", 'U', .none), ("unix-byte-offsets", 'u', .none),
   ("recursive", 'r', .none), ("dereference-recursive", 'R', .none),
   ("directories", 'd', .needed), ("devices", 'D', .needed), ("include", 'χ', .needed),
   ("exclude", 'ξ', .needed), ("exclude-from", 'φ', .needed), ("exclude-dir", 'δ', .needed),
   ("group-separator", 'γ', .needed), ("no-group-separator", 'ω', .none),
   ("line-buffered", 'ο', .none), ("color", 'κ', .optional), ("colour", 'κ', .optional)]

/-- A number for the lines around a match. -/
def contextOr (c : Call) (t? : Option Octets) : Action (Option Nat) :=
  match t? with
  | none => pure none
  | some t =>
      match Text.toNat? t with
      | some n => pure (some n)
      | none => c.die 2 (t ++ text ": invalid context length argument")

/-- How many lines are selected at most. -/
def limitOf (c : Call) (p : Parsed) : Action (Option Nat) :=
  match p.value? 'm' with
  | none => pure none
  | some t =>
      let (isNegative, ds) := match t with
        | '-' :: ds => (true, ds)
        | ds => (false, ds)
      match count "" ds with
      | .ok n => pure (if isNegative then none else some n)
      | .error .tooLarge => pure none
      | .error _ => c.die 2 (text "invalid max count")

/-- Which files are searched, by the options. -/
def choiceOf (c : Call) (p : Parsed) : Action Choice := do
  let glob (t : Octets) : Glob := Glob.ofText c false t
  let listed ← (p.values 'φ').mapM fun file => do
    match ← readInput file with
    | .ok t => return (linesOf t).map fun l => glob (bare l)
    | .error e => c.die 2 (file ++ text ": " ++ e.reason)
  let descent ← match p.lastOf? ['d', 'r', 'R'] with
    | some 'd' => chosen 2 c "--directories" descentWords ((p.value? 'd').getD [])
    | some _ => pure .recurse
    | none => pure .read
  let skipsDevices : Bool ← match p.value? 'D' with
    | none => pure (descent == .recurse)
    | some w =>
        if w = text "read" then pure false
        else if w = text "skip" then pure true
        else c.die 2 (text "unknown devices method")
  return {
    descent, skipsDevices
    follows := p.lastOf? ['d', 'r', 'R'] = some 'R'
    included := (p.values 'χ').map glob
    excluded := (p.values 'ξ').map glob ++ listed.flatten
    excludedDirectories := (p.values 'δ').map fun t => glob (withoutSlashes t) }

/-- Search by the options; `usual` is the letter of the usual grammar. -/
def run (usual : Char) (c : Call) (p : Parsed) : Action Nat := do
  let misuse : Action Nat := do
    let _ ← Action.write 2 (usage c)
    return 2
  let after? ← contextOr c (p.value? 'A')
  let before? ← contextOr c (p.value? 'B')
  let around? ← contextOr c (contextOf p)
  let limit? ← limitOf c p
  let binary ← match p.lastOf? ['a', 'β', 'I'] with
    | some 'a' => pure Binary.text
    | some 'I' => pure .left
    | some _ =>
        match binaryWords.find? fun x => text x.1 == (p.value? 'β').getD [] with
        | some x => pure x.2
        | none => c.die 2 (text "unknown binary-files type")
    | none => pure .told
  let colors ← match p.value? 'κ' with
    | none | some [] => pure false
    | some w =>
        if w = text "always" || w = text "yes" || w = text "force" then pure true
        else if ["never", "no", "none", "auto", "tty", "if-tty"].any (text · == w) then pure false
        else return ← misuse
  let choice ← choiceOf c p
  let given? ← patternsOf c p
  let (patterns?, files) := match given?, p.rest with
    | some ts, files => (some ts, files)
    | none, t :: files => (some [t], files)
    | none, [] => (none, [])
  let some patterns := patterns? | misuse
  let grammar := (p.lastOf? ['E', 'F', 'G', 'P']).getD usual
  let e := c.encoding
  let style : Regex.Style := { (if grammar = 'E' || grammar = 'P' then Regex.Style.extended e
    else Regex.Style.basic e) with
    ignoresCase := (p.lastOf? ['i', 'y', 'ι']).any (· ≠ 'ι') }
  match (patterns.map (expressionsIn (grammar == 'F') style)).mapM id with
  | .error fault => c.die 2 fault.message
  | .ok expressions =>
      let isDeep := choice.descent = .recurse
      let fs ← Action.request .look
      let isUnnamed := isDeep && files = []
      let operands := if isUnnamed then [['.']] else inputsOr files
      let inputs := operands.flatMap (choice.filesAt fs)
      let query : Query := ⟨e, expressions.flatten, p.has 'x', p.has 'w', p.has 'v'⟩
      let isOneFile := match operands with
        | [f] => !isDeep || !isDirectory fs f
        | _ => false
      let display : Display :=
        { counts := p.has 'c'
          namesMatching := p.lastOf? ['l', 'L'] = some 'l'
          namesOthers := p.lastOf? ['l', 'L'] = some 'L'
          isQuiet := p.has 'q', numbers := p.has 'n', offsets := p.has 'b'
          onlyMatches := p.has 'o', colors, limit?, binary
          names := match p.lastOf? ['h', 'H'] with
            | some 'h' => false
            | some _ => true
            | none => !isOneFile
          endsNames := p.has 'Z', aligns := p.has 'T'
          before := before?.getD (around?.getD 0)
          after := after?.getD (around?.getD 0)
          divider? := match p.lastOf? ['γ', 'ω'] with
            | some 'γ' => p.value? 'γ'
            | some _ => none
            | none => some (text "--")
          lineEnd := if p.has 'z' then Octets.nul else '\n' }
      if limit? = some 0 && !display.namesOthers then return 1
      else
        searchAll c display query
          ⟨p.has 's', (p.value? 'λ').getD (text "(standard input)"), isUnnamed⟩
          ⟨false, false⟩ inputs

/-- Search for lines; `usual` is the letter of the usual grammar. -/
def search (usual : Char) : Utility := fun c => do
  let known : Known :=
    ⟨"EFGPie:f:vwxcolLqsnbhHm:A:B:C:ad:D:rRIzZyuUTV0123456789", words ++ Known.commonWords,
      (c.valueOf? "POSIXLY_CORRECT").isSome⟩
  match known.parse c.args with
  | .error f => do
      let _ ← Action.write 2 (c.complaint f.message ++ usage c)
      return 2
  | .ok p =>
      let options := p.options.map fun o => if o.1 = 'V' then (Known.versionLetter, []) else o
      match aboutItself? c options with
      | some t => do
          say c t
          return 0
      | none => run usual c p

end Search

/-- Search for lines. -/
def grep : Utility := Search.search 'G'

/-- Search for lines with the extended grammar. -/
def egrep : Utility := fun c => Search.search 'E' { c with name := text "grep" }

/-- Search for lines that hold some text. -/
def fgrep : Utility := fun c => Search.search 'F' { c with name := text "grep" }

end SkipAudit.Utility
