/-
Running a program for words that are read, with so many of them at a time.
-/
import SkipAudit.Format.Escape
import SkipAudit.Utility.Starting

namespace SkipAudit.Utility

/-! ## Words -/

/-- A word that was read. -/
structure ReadWord where
  bytes : Octets
  /-- The line ends right behind it. -/
  endsLine : Bool

/-- The words of a text, and the quotation mark that was left open, if there was one. -/
structure ReadWords where
  words : List ReadWord
  unclosed? : Option Char

namespace ReadWords

/-- No words. -/
def none : ReadWords := ⟨[], .none⟩

/-- With another word in front, if there is one. -/
def after (word? : Option Octets) (endsLine : Bool) (r : ReadWords) : ReadWords :=
  match word? with
  | some w => { r with words := ⟨w, endsLine⟩ :: r.words }
  | .none => r

end ReadWords

/-- Read words: quotation marks and backslashes keep characters from parting them.  With
`wholeLines` only newlines part them, and blanks in front of a word do not belong to it. -/
def readWords (wholeLines : Bool) : Option Char → Option Octets → Octets → ReadWords
  | some q, _, [] => ⟨[], some q⟩
  | none, word?, [] => .after word? true .none
  | some q, word?, c :: t =>
      if c = '\n' then ⟨[], some q⟩
      else if c = q then readWords wholeLines none word? t
      else readWords wholeLines (some q) (some (word?.getD [] ++ [c])) t
  | none, word?, '\\' :: c :: t => readWords wholeLines none (some (word?.getD [] ++ [c])) t
  | none, word?, c :: t =>
      if c = '\\' then .after word? true .none
      else if c = '\n' then .after word? true (readWords wholeLines none none t)
      else if (c = ' ' || c = '\t') && (!wholeLines || word?.isNone) then
        .after word? false (readWords wholeLines none none t)
      else if c = '\'' || c = '"' then readWords wholeLines (some c) (some (word?.getD [])) t
      else readWords wholeLines none (some (word?.getD [] ++ [c])) t

/-- The pieces of a text that each end in a character. -/
def piecesEndedBy (d : Char) : Octets → List Octets
  | [] => []
  | c :: t =>
      if c = d then [] :: piecesEndedBy d t
      else match piecesEndedBy d t with
        | [] => [[c]]
        | p :: ps => (c :: p) :: ps

/-- The first words that stand on so many lines, and the rest. -/
def takeLines : Nat → List ReadWord → List ReadWord × List ReadWord
  | 0, ws => ([], ws)
  | _, [] => ([], [])
  | n + 1, w :: ws =>
      let (a, b) := takeLines (if w.endsLine then n else n + 1) ws
      (w :: a, b)

/-- How many words go together, where there are limits. -/
structure Portion where
  words? : Option Nat
  lines? : Option Nat
  /-- One word stands for a text, in all places where that stands. -/
  mark? : Option Octets
  /-- How long the command may be, in bytes. -/
  size? : Option Nat
  /-- A command that would be too long ends everything. -/
  isStrict : Bool

namespace Portion

/-- No limits. -/
def all : Portion := ⟨none, none, none, none, false⟩

/-- The words that the limits on their number leave together, and the rest. -/
def counted (p : Portion) (ws : List ReadWord) : List ReadWord × List ReadWord :=
  match p.mark?, p.words?, p.lines? with
  | some _, _, _ => (ws.take 1, ws.drop 1)
  | none, some k, _ => (ws.take k, ws.drop k)
  | none, none, some k => takeLines k ws
  | none, none, none => (ws, [])

/-- How many of some words fit behind a command of some length. -/
def fitting (room : Nat) : List ReadWord → Nat
  | [] => 0
  | w :: ws =>
      if room < w.bytes.length + 1 then 0 else fitting (room - (w.bytes.length + 1)) ws + 1

end Portion

/-- Words in portions, and what is wrong with the rest of them. -/
structure Portions where
  portions : List (List Octets)
  fault? : Option Octets

/-- The words in portions behind a command of some length; the number bounds how many there are. -/
def portionsOf (p : Portion) (command : Nat) : Nat → List ReadWord → Portions
  | 0, _ | _, [] => ⟨[], none⟩
  | n + 1, ws =>
      let (a, _) := p.counted ws
      let k := match p.size?, p.mark? with
        | some size, none => Portion.fitting (size - command) a
        | _, _ => a.length
      if k = 0 then ⟨[], some (text "argument line too long")⟩
      else if k < a.length && p.isStrict then ⟨[], some (text "argument list too long")⟩
      else
        let rest := portionsOf p command n (ws.drop k)
        ⟨(a.take k).map ReadWord.bytes :: rest.portions, rest.fault?⟩

/-- A text with another in all places where a mark stands; the number counts the bytes that belong
to a mark that has been replaced. -/
def replaceAll (mark t : Octets) : Nat → Octets → Octets
  | _, [] => []
  | k + 1, _ :: rest => replaceAll mark t k rest
  | 0, c :: rest =>
      if mark ≠ [] && Text.startsWith mark (c :: rest) then
        t ++ replaceAll mark t (mark.length - 1) rest
      else c :: replaceAll mark t 0 rest

/-- The arguments of a program for a portion. -/
def argumentsFor (p : Portion) (first words : List Octets) : List Octets :=
  match p.mark?, words with
  | some mark, [w] => first.map (replaceAll mark w 0)
  | _, words => first ++ words

/-! ## Running -/

/-- How programs are run. -/
structure Manner where
  keepsInput : Bool
  tells : Bool
  asks : Bool
  /-- The terminal is their input, and there is none. -/
  wantsTerminal : Bool
  environment : List Octets

/-- A command as it is told. -/
def toldCommand (c : Call) (args : List Octets) : Octets :=
  (List.intersperse [' '] (args.map (Quoting.shellEscape.apply c.encoding []))).flatten

/-- Run a program for a portion. -/
def runPortion (c : Call) (k : Manner) (args : List Octets) : Action RunEnd := do
  if k.tells || k.asks then
    let _ ← Action.write 2 (toldCommand c args ++ if k.asks then [] else ['\n'])
  if k.asks then c.die 1 (text "failed to open /dev/tty for reading: No such device or address")
  if k.wantsTerminal then
    c.warn (c.quote (text "/dev/tty") ++ text ": No such device or address")
    return .ended (.killed 6)
  else
    runToEnd c (if k.keepsInput then pure () else withoutInput)
      (fun cause => args.headD [] ++ text ": " ++ cause.reason) args k.environment

/-- Run a program for all portions, one after the other. -/
def runPortions (c : Call) (k : Manner) (p : Portion) (first : List Octets) :
    Nat → List (List Octets) → Action Nat
  | status, [] => return status
  | status, words :: more => do
      let args := argumentsFor p first words
      match ← runPortion c k args with
      | .refused status => return status
      | .ended (.exited 0) => runPortions c k p first status more
      | .ended (.exited 255) => do
          c.warn (args.headD [] ++ text ": exited with status 255; aborting")
          return 124
      | .ended (.killed n) => do
          c.warn (args.headD [] ++ text ": terminated by signal " ++ Text.ofNat n)
          return 125
      | .ended _ => runPortions c k p first 123 more

/-! ## Options -/

/-- Complain of a number, and end. -/
def refuseCount {α : Type} (c : Call) (t : Octets) : Action α := do
  Action.exit (← c.misused 1 t)

/-- The number that an option has to have. -/
def countBehind (c : Call) (letter : Char) (least : Nat) (t : Octets) : Action Nat :=
  let (isNegative, ds) := match t with
    | '-' :: ds => (true, ds)
    | ds => (false, ds)
  match Text.toNat? ds with
  | none =>
      refuseCount c (text "invalid number \"" ++ t ++ text "\" for -" ++ letter :: text " option")
  | some n =>
      if n < least || isNegative && n ≠ 0 then
        refuseCount c (text "value " ++ t ++ text " for -" ++ letter ::
          text " option should be >= " ++ Text.ofNat least)
      else pure n

/-- Warn that an option takes the place of one before. -/
def replaces (c : Call) (old new : String) : Action Unit :=
  c.warn (text "warning: options " ++ text old ++ text " and " ++ text new ++
    text " are mutually exclusive, ignoring previous " ++ text old ++ text " value")

/-- The two braces that stand for a word if nothing else is said. -/
def usualMark : Octets := ['\x7b', '\x7d']

/-- How many words go together after one more option. -/
def Portion.withOption (c : Call) (p : Portion) (o : Char × Octets) : Action Portion := do
  let lines (name : String) (n : Nat) : Action Portion := do
    if p.words?.isSome then replaces c "--max-args" name
    if p.mark?.isSome then replaces c "--replace" name
    return { p with lines? := some n, words? := none, mark? := none, isStrict := true }
  match o with
  | ('n', v) => do
      let n ← countBehind c 'n' 1 v
      if p.lines?.isSome then replaces c "--max-lines" "--max-args/-n"
      if p.mark?.isSome && n ≠ 1 then replaces c "--replace" "--max-args/-n"
      if p.mark?.isSome && n = 1 then return p
      else return { p with words? := some n, lines? := none, mark? := none }
  | ('L', v) => do lines "-L" (← countBehind c 'L' 1 v)
  | ('l', v) => do lines "--max-lines/-l" (← if v = [] then pure 1 else countBehind c 'l' 1 v)
  | ('I', v) | ('i', v) => do
      if p.words?.isSome then replaces c "--max-args" "--replace/-I/-i"
      if p.lines?.isSome then replaces c "--max-lines" "--replace/-I/-i"
      return { p with
        mark? := some (if v = [] then usualMark else v), words? := none, lines? := none }
  | ('s', v) => do return { p with size? := some (← countBehind c 's' 1 v) }
  | ('x', _) => return { p with isStrict := true }
  | ('P', v) => do
      let _ ← countBehind c 'P' 0 v
      return p
  | _ => return p

/-- The character that parts the words, if it is not the usual ones. -/
def delimiterOf (c : Call) (options : List (Char × Octets)) : Action (Option Char) :=
  match (options.filter fun o => o.1 = '0' || o.1 = 'd').getLast? with
  | none => pure none
  | some ('0', _) => pure (some Octets.nul)
  | some (_, t) =>
      match (Escape.expand (.program .bytes) t).1 with
      | [d] => pure (some d)
      | _ => c.die 1 (text "Invalid input delimiter specification " ++ t ++
          text (": the delimiter must be either a single character or an escape sequence " ++
            "starting with \\."))

/-- The words of an input. -/
def wordsIn (p : Portion) (delimiter? : Option Char) (last? : Option Octets) (t : Octets) :
    ReadWords :=
  match delimiter? with
  | some d => ⟨(piecesEndedBy d t).map fun w => ⟨w, true⟩, none⟩
  | none =>
      let r := readWords p.mark?.isSome none none t
      match last? with
      | none => r
      | some l =>
          if r.words.any (·.bytes == l) then ⟨r.words.takeWhile (·.bytes != l), none⟩ else r

/-- The complaint about a quotation mark that was left open. -/
def unclosedText (q : Char) : Octets :=
  text "unmatched " ++ text (if q = '\'' then "single" else "double") ++
    text " quote; by default quotes are special to xargs unless you use the -0 option"

/-- The words of the options. -/
def batchWords : List Word :=
  [("null", '0', .none), ("arg-file", 'a', .needed), ("delimiter", 'd', .needed),
   ("eof", 'e', .optional), ("replace", 'i', .optional), ("max-lines", 'l', .optional),
   ("max-args", 'n', .needed), ("interactive", 'p', .none), ("no-run-if-empty", 'r', .none),
   ("max-chars", 's', .needed), ("open-tty", 'o', .none), ("verbose", 't', .none),
   ("show-limits", 'λ', .none), ("exit", 'x', .none), ("max-procs", 'P', .needed),
   ("process-slot-var", 'σ', .needed)]

/-- Run a program for words that are read. -/
def xargs : Utility := fun c =>
  withLeadingOptions 1 "0a:d:E:e::I:i::L:l::n:oprs:txP:" batchWords c fun p => do
    let portion ← p.options.foldlM (Portion.withOption c) .all
    let delimiter? ← delimiterOf c p.options
    let file? := p.value? 'a'
    match ← readInput (file?.getD ['-']) with
    | .error e =>
        c.die 1 (match file? with
          | some f => text "Cannot open input file " ++ c.quote f ++ text ": " ++ e.reason
          | none => text "error closing file: " ++ e.reason)
    | .ok t => do
        let last? := ((p.options.filter fun o => o.1 = 'E' || o.1 = 'e').getLast?).map (·.2)
        let r := wordsIn portion delimiter? (last?.filter (· ≠ [])) t
        let first := if p.rest = [] then [text "echo"] else p.rest
        let runsAnyway := r.words.isEmpty && !p.has 'r' && r.unclosed?.isNone &&
          portion.mark?.isNone
        let command := Natural.total (first.map fun w => w.length + 1)
        if portion.size?.any (· < command) then
          c.die 1 (text "cannot fit single argument within argument list size limit")
        let found := if runsAnyway then ⟨[[]], none⟩
          else portionsOf portion command r.words.length r.words
        let k : Manner := {
          keepsInput := file?.isSome
          tells := p.has 't'
          asks := p.has 'p'
          wantsTerminal := p.has 'o'
          environment := match p.value? 'σ' with
            | some name => withVariable c.environment (name ++ text "=0")
            | none => c.environment }
        let early := if r.unclosed?.isSome then found.portions.dropLast else found.portions
        let status ← runPortions c k portion first 0 early
        if 123 < status then return status
        match found.fault?, r.unclosed? with
        | some t, _ => c.die 1 t
        | none, none => return status
        | none, some q =>
            c.warn (unclosedText q)
            let _ ← runPortions c k portion first 0 (found.portions.drop early.length)
            return 1

end SkipAudit.Utility
