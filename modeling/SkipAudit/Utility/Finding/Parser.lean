/-
Reading what is asked of entries in a search.

The words are first read as tests and as signs, and then the signs join the tests: one after the
other, alternatives, tests that all have to hold, and negations, in the order of how closely they
bind.
-/
import SkipAudit.FileSystem.ModeChange
import SkipAudit.Regex.Parser
import SkipAudit.Utility.Finding.Writing

namespace SkipAudit.Utility.Finding

/-- What is known while words are read. -/
structure Setting where
  call : Call
  fs : FileSystem
  now : Moment

/-- What stands in front of the first word counts from now. -/
structure Reading where
  /-- The time from which ages are counted. -/
  now : Int
  /-- The grammar of expressions. -/
  style : Regex.Style

/-- A word that has been read. -/
inductive Token where
  | test (t : Test)
  /-- A parenthesis, a negation, or what joins tests. -/
  | sign (w : Octets)

/-- What holds for the whole search. -/
structure Bounds where
  least : Nat
  most? : Option Nat
  /-- What is in a directory comes before it. -/
  isDeep : Bool
  isDeepByWord : Bool
  follows : Bool

/-- Everything that the words say. -/
structure Words where
  tokens : List Token
  warnings : List Octets
  bounds : Bounds

/-! ## Values -/

/-- A number, with a sign in front that says how others have to stand to it. -/
def amount? (t : Octets) : Option Amount :=
  match t with
  | '+' :: t => (Text.toNat? t).map .more
  | '-' :: t => (Text.toNat? t).map .less
  | t => (Text.toNat? t).map .exactly

/-- A complaint of the value behind a word. -/
def badValue {α : Type} (word v : Octets) : Except Octets α :=
  .error (text "invalid argument \x60" ++ v ++ text "' to \x60" ++ word ++ ['\''])

/-- An amount behind a word. -/
def amountOr (word v : Octets) : Except Octets Amount :=
  match amount? v with
  | some a => .ok a
  | none => badValue word v

/-- The bytes in a unit of size. -/
def unitOf? : Char → Option Nat
  | 'b' => some 512
  | 'c' => some 1
  | 'w' => some 2
  | 'k' => some 1024
  | 'M' => some 1048576
  | 'G' => some 1073741824
  | _ => none

/-- A test of the size. -/
def sizeTest (v : Octets) : Except Octets Test :=
  let badUnit (c : Char) : Except Octets Test :=
    .error (text "invalid -size type \x60" ++ [c, '\''])
  match v.getLast? with
  | none => .error (text "invalid null argument to -size")
  | some c =>
      let (digits, unit?) := if c.isDigit then (v, some 512) else (v.dropLast, unitOf? c)
      match unit? with
      | none => badUnit c
      | some unit =>
          match amount? digits with
          | some a => .ok (.size a unit)
          | none => .error (text "Invalid argument \x60" ++ v ++ text "' to -size")

/-- The letters of kinds, parted by commas. -/
def kindTest (word v : Octets) (ofTarget : Bool) : Except Octets Test :=
  let rec letters : Octets → Except Octets (List Char)
    | [] => .error (text "Arguments to " ++ word ++ text " should contain at least one letter")
    | c :: t =>
        if "bcdpflsD".contains c = false then
          .error (text "Unknown argument to " ++ word ++ text ": " ++ [c])
        else match t with
          | [] => .ok [c]
          | [','] => .error (text "Last file type in list argument to " ++ word ++
              text " is missing, i.e., list is ending on: ','")
          | ',' :: t => (letters t).map (c :: ·)
          | _ => .error (text "Must separate multiple arguments to " ++ word ++
              text " using: ','")
  (letters v).map fun ls => .kind ls ofTarget

/-- A test of permissions. -/
def modeTest (c : Call) (v : Octets) : Except Octets Test :=
  let (m, t) := match v with
    | '-' :: t => (Match.all, t)
    | '/' :: t => (Match.any, t)
    | t => (Match.exactly, t)
  let bad : Except Octets Test := .error (text "invalid mode " ++ c.quote v)
  if t = [] then bad
  else match ModeChange.parse? t with
    | some ms =>
        let files := ModeChange.adjust ms false 0 0
        let directories := ModeChange.adjust ms true 0 0
        .ok (.mode (if m = .any && files = 0 then .all else m) files directories)
    | none => bad

/-- The entry that a value names. -/
def Setting.entryOr (k : Setting) (v : Octets) : Except Octets Entry :=
  match k.fs.entry ⟨v⟩ with
  | .ok e => .ok e
  | .error e => .error (k.call.quote v ++ text ": " ++ e.reason)

/-- A time that a value names: of an entry, or in words. -/
def Setting.timeOr (k : Setting) (letter : Char) (v : Octets) : Except Octets Int :=
  if letter = 't' then
    match k.now.read? v with
    | some m => .ok m.total
    | none => .error (text "I cannot figure out how to interpret " ++ k.call.quote v ++
        text " as a date or time")
  else (k.entryOr v).map fun e =>
    match letter with
    | 'a' => e.attributes.accessed
    | 'c' => e.attributes.changed
    | _ => e.attributes.modified

/-- The words for grammars of expressions. -/
def grammars (e : Encoding) : List (String × Regex.Style) :=
  [("findutils-default", .editor e), ("ed", .basic e), ("emacs", .editor e),
   ("gnu-awk", .extended e), ("grep", .basic e), ("posix-awk", .extended e), ("awk", .extended e),
   ("posix-basic", .basic e), ("posix-egrep", .extended e), ("egrep", .extended e),
   ("posix-extended", .extended e), ("posix-minimal-basic", .basic e), ("sed", .basic e)]

/-! ## Programs -/

/-- The two braces that stand for an entry. -/
def braces : Octets := ['\x7b', '\x7d']

/-- The words of a program up to the sign that ends them, whether this is a plus, and the rest. -/
def commandWords : List Octets → Option (List Octets × Bool × List Octets)
  | [] => none
  | [';'] :: rest => some ([], false, rest)
  | w :: rest =>
      match rest with
      | ['+'] :: more =>
          if w = braces then some ([w], true, more)
          else (commandWords rest).map fun (ws, isMany, rest) => (w :: ws, isMany, rest)
      | _ => (commandWords rest).map fun (ws, isMany, rest) => (w :: ws, isMany, rest)

/-- Some text stands within another one. -/
def holdsText (t : Octets) : Octets → Bool
  | [] => t = []
  | c :: u => Text.startsWith t (c :: u) || holdsText t u

/-- Read a program that is run. -/
def command (c : Call) (word : Octets) (isThere asks : Bool) (rest : List Octets) :
    Except Octets (Test × List Octets) :=
  match commandWords rest with
  | none => .error (text "missing argument to \x60" ++ word ++ ['\''])
  | some (words, isMany, more) =>
      let isMany := isMany && !asks
      if words = [] then badValue word ((rest.head?).getD [])
      else
        let fixed := if isMany then words.dropLast else words
        if isMany && fixed.any (· == braces) then
          .error (text "Only one instance of \x7b\x7d is supported with " ++ word ++
            text " ... +")
        else match if isMany then fixed.find? (holdsText braces) else none with
          | some w =>
              .error (text "In " ++ c.quote (word ++ text " ... \x7b\x7d +") ++ text " the " ++
                c.quote braces ++ text " must appear by itself, but you specified " ++ c.quote w)
          | none =>
              .ok (.run ⟨fixed, if isMany then some more.length else none, isThere, asks⟩, more)

/-! ## Words -/

/-- What a word comes to. -/
structure Taken where
  tokens : List Token
  warnings : List Octets
  reading : Reading
  bounds : Bounds
  rest : List Octets

/-- A word with a value behind it, as a test. -/
def valueTest? (k : Setting) (r : Reading) (word v : Octets) : Option (Except Octets Test) :=
  let glob (folds : Bool) : Glob := Glob.ofText k.call folds v
  let amount (f : Amount → Test) : Option (Except Octets Test) := some ((amountOr word v).map f)
  let expression (folds : Bool) : Option (Except Octets Test) :=
    some (match Regex.parse { r.style with ignoresCase := folds } (k.call.encoding.decode v) with
      | .ok e => .ok (.matching e)
      | .error fault =>
          .error (text "failed to compile regular expression \x60" ++ v ++ text "': " ++
            fault.message))
  let newerAs (t : Time) (letter : Char) : Option (Except Octets Test) :=
    some ((k.timeOr letter v).map fun n => .newer t n)
  match String.ofList (word.drop 1) with
  | "name" => some (.ok (.name (glob false)))
  | "iname" => some (.ok (.name (glob true)))
  | "path" | "wholename" => some (.ok (.path (glob false)))
  | "ipath" | "iwholename" => some (.ok (.path (glob true)))
  | "lname" => some (.ok (.linkTarget (glob false)))
  | "ilname" => some (.ok (.linkTarget (glob true)))
  | "regex" => expression false
  | "iregex" => expression true
  | "type" => some (kindTest word v false)
  | "xtype" => some (kindTest word v true)
  | "size" => some (sizeTest v)
  | "mtime" => amount (.days r.now .modified)
  | "atime" => amount (.days r.now .accessed)
  | "ctime" => amount (.days r.now .changed)
  | "mmin" => amount (.minutes r.now .modified)
  | "amin" => amount (.minutes r.now .accessed)
  | "cmin" => amount (.minutes r.now .changed)
  | "newer" | "newermm" => newerAs .modified 'm'
  | "anewer" => newerAs .accessed 'm'
  | "cnewer" => newerAs .changed 'm'
  | "perm" => some (modeTest k.call v)
  | "uid" => amount .owner
  | "gid" => amount .group
  | "user" =>
      some (match Accounts.user? v, Text.toNat? v with
        | some u, _ => .ok (.owner (.exactly u.number))
        | none, some n => .ok (.owner (.exactly n))
        | none, none =>
            .error (if v = [] then text "The argument to -user should not be empty"
              else k.call.quote v ++ text " is not the name of a known user"))
  | "group" =>
      some (match Accounts.group? v, Text.toNat? v with
        | some n, _ | none, some n => .ok (.group (.exactly n))
        | none, none =>
            .error (if v = [] then text "argument to -group is empty, but should be a group name"
              else k.call.quote v ++ text " is not the name of an existing group"))
  | "links" => amount .names
  | "inum" => amount .number
  | "samefile" => some ((k.entryOr v).map .same)
  | "fprint" => some (.ok (.print (.file v) '\n'))
  | "fprint0" => some (.ok (.print (.file v) Octets.nul))
  | "fls" => some (.ok (.list (.file v)))
  | _ =>
      match word.drop 1 with
      | ['n', 'e', 'w', 'e', 'r', x, y] =>
          let which? := match x with
            | 'a' => some Time.accessed
            | 'B' | 'c' => some .changed
            | 'm' => some .modified
            | _ => none
          if "aBcmt".contains y then which?.bind fun t => newerAs t y else none
      | _ => none

/-- A word that stands alone, as a test. -/
def loneTest? (word : Octets) : Option Test :=
  match String.ofList (word.drop 1) with
  | "empty" => some .isEmpty
  | "executable" => some .isExecutable
  | "readable" | "writable" | "true" | "noleaf" | "xdev" | "mount" | "warn" | "nowarn"
  | "ignore_readdir_race" | "noignore_readdir_race" => some (.constant true)
  | "false" => some (.constant false)
  | "nouser" => some .hasNoOwner
  | "nogroup" => some .hasNoGroup
  | "prune" => some .prune
  | "quit" => some .quit
  | "delete" => some .delete
  | "print" => some (.print .output '\n')
  | "print0" => some (.print .output Octets.nul)
  | "ls" => some (.list .output)
  | _ => none

/-- The words that have a value behind them. -/
def valueWords : List String :=
  ["name", "iname", "path", "wholename", "ipath", "iwholename", "lname", "ilname", "regex",
   "iregex", "type", "xtype", "size", "mtime", "atime", "ctime", "mmin", "amin", "cmin", "newer",
   "anewer", "cnewer", "perm", "uid", "gid", "user", "group", "links", "inum", "samefile",
   "fprint", "fprint0", "fls"]

/-- The next midnight after a moment, in nanoseconds. -/
def nextMidnight (now : Moment) : Int :=
  let day := 86400 * Moment.perSecond
  (now.total / day + 1) * day

/-- Read a word, which begins with a hyphen. -/
def takeWord (k : Setting) (r : Reading) (b : Bounds) (word : Octets) (rest : List Octets) :
    Except Octets Taken :=
  let missing : Except Octets Taken := .error (text "missing argument to \x60" ++ word ++ ['\''])
  let quiet (t : Test) (rest : List Octets) : Except Octets Taken := .ok ⟨[.test t], [], r, b, rest⟩
  let depth (f : Nat → Bounds) : Except Octets Taken :=
    match rest with
    | [] => missing
    | v :: rest =>
        if v ≠ [] && v.all Char.isDigit then
          .ok ⟨[.test (.constant true)], [], r, f ((Text.toNat? v).getD 0), rest⟩
        else .error (text "Expected a positive decimal integer argument to " ++ word ++
          text ", but got " ++ k.call.quote v)
  let formatted (target : Target) (f : Octets) (rest : List Octets) : Except Octets Taken :=
    let found := readFormat (f.length + 1) f
    match found.fault? with
    | some t => .error t
    | none => .ok ⟨[.test (.format target found.pieces)], found.warnings, r, b, rest⟩
  match String.ofList (word.drop 1), rest with
  | "maxdepth", _ => depth fun n => { b with most? := some n }
  | "mindepth", _ => depth fun n => { b with least := n }
  | "depth", rest | "d", rest =>
      .ok ⟨[.test (.constant true)], [], r, { b with isDeep := true, isDeepByWord := true }, rest⟩
  | "follow", rest => .ok ⟨[.test (.constant true)], [], r, { b with follows := true }, rest⟩
  | "daystart", rest =>
      .ok ⟨[.test (.constant true)], [], { r with now := nextMidnight k.now }, b, rest⟩
  | "regextype", v :: rest =>
      match (grammars k.call.encoding).find? fun x => text x.1 == v with
      | some x => .ok ⟨[.test (.constant true)], [], { r with style := x.2 }, b, rest⟩
      | none =>
          .error (text "Unknown regular expression type " ++ k.call.quote v ++
            text "; valid types are " ++
            (List.intersperse (text ", ") ((grammars .bytes).map fun x =>
              k.call.quote (text x.1))).flatten ++ ['.'])
  | "printf", f :: rest => formatted .output f rest
  | "fprintf", file :: f :: rest => formatted (.file file) f rest
  | "regextype", _ | "printf", _ | "fprintf", _ => missing
  | "exec", rest => do
      let (t, rest) ← command k.call word false false rest
      quiet t rest
  | "execdir", rest => do
      let (t, rest) ← command k.call word true false rest
      quiet t rest
  | "ok", rest => do
      let (t, rest) ← command k.call word false true rest
      quiet t rest
  | "okdir", rest => do
      let (t, rest) ← command k.call word true true rest
      quiet t rest
  | name, rest =>
      if text name = text "not" || text name = ['a'] || text name = text "and" ||
          text name = ['o'] || text name = text "or" then .ok ⟨[.sign word], [], r, b, rest⟩
      else match loneTest? word with
        | some .delete => .ok ⟨[.test .delete], [], r, { b with isDeep := true }, rest⟩
        | some t => quiet t rest
        | none =>
            match rest with
            | [] => if valueWords.contains name then missing
                else .error (text "unknown predicate \x60" ++ word ++ ['\''])
            | v :: rest =>
                match valueTest? k r word v with
                | some t => do quiet (← t) rest
                | none =>
                    if Text.startsWith (text "-newer") word && word.length = 8 then
                      .error (text "invalid predicate \x60" ++ word ++ ['\''])
                    else .error (text "unknown predicate \x60" ++ word ++ ['\''])

/-- Read all words; the number bounds how many there are. -/
def readTokens (k : Setting) : Nat → Reading → Bounds → List Octets → Except Octets Words
  | 0, _, b, _ | _, _, b, [] => .ok ⟨[], [], b⟩
  | n + 1, r, b, w :: rest => do
      if w = ['('] || w = [')'] || w = ['!'] || w = [','] then
        let ws ← readTokens k n r b rest
        return { ws with tokens := .sign w :: ws.tokens }
      else if Text.startsWith ['-'] w && 1 < w.length then
        let t ← takeWord k r b w rest
        let ws ← readTokens k n t.reading t.bounds t.rest
        return { ws with tokens := t.tokens ++ ws.tokens, warnings := t.warnings ++ ws.warnings }
      else .error (text "paths must precede expression: \x60" ++ w ++ ['\''])

/-! ## Joining -/

/-- How closely tests are joined. -/
inductive Binding where
  | inTurn
  | alternatives
  | together
  | alone

/-- The sign joins alternatives. -/
def isOr (w : Octets) : Bool := w = text "-o" || w = text "-or"

/-- The sign joins tests that all have to hold. -/
def isAnd (w : Octets) : Bool := w = text "-a" || w = text "-and"

/-- The sign is a negation. -/
def isNot (w : Octets) : Bool := w = ['!'] || w = text "-not"

/-- Join tests; `last?` is the sign in front, and the number bounds how many there are. -/
def join : Nat → Binding → Option Octets → List Token → Except Octets (Test × List Token)
  | 0, _, _, ts => .ok (.constant true, ts)
  | n + 1, .inTurn, last?, ts => do
      let (a, rest) ← join n .alternatives last? ts
      match rest with
      | .sign [','] :: more =>
          let (b, rest) ← join n .inTurn (some [',']) more
          return (.inTurn a b, rest)
      | rest => return (a, rest)
  | n + 1, .alternatives, last?, ts => do
      let (a, rest) ← join n .together last? ts
      match rest with
      | .sign w :: more =>
          if isOr w then
            let (b, rest) ← join n .alternatives (some w) more
            return (.either a b, rest)
          else return (a, rest)
      | rest => return (a, rest)
  | n + 1, .together, last?, ts => do
      let (a, rest) ← join n .alone last? ts
      match rest with
      | [] => return (a, [])
      | .sign w :: more =>
          if isOr w || w = [')'] || w = [','] then return (a, rest)
          else
            let (b, rest) ← if isAnd w then join n .together (some w) more
              else join n .together none rest
            return (.both a b, rest)
      | rest =>
          let (b, rest) ← join n .together none rest
          return (.both a b, rest)
  | n + 1, .alone, last?, ts =>
      match ts, last? with
      | .test t :: rest, _ => .ok (t, rest)
      | .sign w :: rest, last? =>
          if isNot w then (join n .alone (some w) rest).map fun (t, rest) => (.not t, rest)
          else if w = ['('] then do
            let (t, rest) ← join n .inTurn (some w) rest
            match rest with
            | .sign [')'] :: rest => return (t, rest)
            | _ => .error (text ("invalid expression; I was expecting to find a ')' somewhere " ++
                "but did not see one."))
          else if w = [')'] then
            match last? with
            | some ['('] => .error (text "invalid expression; empty parentheses are not allowed.")
            | some l => .error (text "expected an expression between '" ++ l ++ text "' and ')'")
            | none => .error (text "you have too many ')'")
          else .error (text "invalid expression; you have used a binary operator '" ++ w ++
            text "' with nothing before it.")
      | [], some ['('] =>
          .error (text ("invalid expression; expected to find a ')' but didn't see one. " ++
            "Perhaps you need an extra predicate after '('"))
      | [], some [','] => .error (text "invalid expression")
      | [], some l => .error (text "expected an expression after '" ++ l ++ ['\''])
      | [], none => .ok (.constant true, [])

/-- The test that all words come to. -/
def testOf (ts : List Token) : Except Octets Test := do
  match ← join (4 * ts.length + 4) .inTurn none ts with
  | (t, []) => return t
  | (_, _ :: _) => .error (text "you have too many ')'")

end SkipAudit.Utility.Finding
