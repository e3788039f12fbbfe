/-
Reading programs that edit texts.

A fault is told with the number of characters that had been read when it was found.
-/
import SkipAudit.Format.Escape
import SkipAudit.Regex.Parser
import SkipAudit.Text.Versions
import SkipAudit.Utility.Edit.Program

namespace SkipAudit.Edit

/-- A fault of a program. -/
structure Fault where
  /-- How much was left to read; nothing counts as the beginning of the program. -/
  left? : Option Nat
  message : Octets
deriving DecidableEq, Repr

/-- A reader: what it has read and what is left. -/
abbrev Reader (α : Type) := Octets → Except Fault (α × Octets)

/-- Fail where so much is left. -/
def failAt {α : Type} (rest : Octets) (message : String) : Except Fault α :=
  .error ⟨some rest.length, text message⟩

/-- In which grammar the expressions are read. -/
structure Grammar where
  isExtended : Bool
  /-- How the characters of the program were read. -/
  encoding : Encoding
  /-- Nothing may be run, and no files may be read or written. -/
  isConfined : Bool
deriving DecidableEq, Repr

/-- A blank, or the end of a line. -/
def isSpace (c : Char) : Bool := c == ' ' || ('\t' ≤ c && c ≤ '\r')

/-- A text without the blanks in front, the ends of lines not counting as blanks. -/
def dropBlanks (t : Octets) : Octets := t.dropWhile fun c => isSpace c && c != '\n'

/-- The digits in front of a text. -/
def digits (t : Octets) : Option Nat × Octets :=
  let ds := t.takeWhile Char.isDigit
  (Text.toNat? ds, t.drop ds.length)

/-- The text up to a delimiter, which loses its meaning behind a backslash.  `keeps`: between
brackets the delimiter means nothing, and other backslashes are left for later. -/
def upTo? (delimiter : Char) (isRegex : Bool) : Nat → Bool → Octets → Option (Octets × Octets)
  | 0, _, _ => none
  | _, _, [] => none
  | n + 1, inBrackets, '\\' :: c :: t =>
      let here : Octets :=
        if c = delimiter && !inBrackets then
          if !isRegex && c = '&' then ['\\', c] else [c]
        else if c = '\n' && isRegex then ['\n'] else ['\\', c]
      (upTo? delimiter isRegex n inBrackets t).map fun (u, rest) => (here ++ u, rest)
  | n + 1, inBrackets, c :: t =>
      if c = delimiter && !inBrackets then some ([], t)
      else if c = '\n' && isRegex then none
      else
        let inside := isRegex && (if inBrackets then c != ']' else c == '[')
        let (front, t) := match inBrackets, inside, t with
          | false, true, '^' :: ']' :: t => ([c, '^', ']'], t)
          | false, true, ']' :: t => ([c, ']'], t)
          | _, _, t => ([c], t)
        (upTo? delimiter isRegex n inside t).map fun (u, rest) => (front ++ u, rest)

/-- The number of a character that digits of some base stand for, at most so many of them. -/
def numbered? (base limit : Nat) (t : Octets) : Option (Char × Octets) :=
  let ds := (t.take limit).takeWhile fun c => (Escape.hexValue? c).any (· < base)
  if ds = [] then none
  else some (Escape.octet (ds.foldl (fun n d => n * base + (Escape.hexValue? d).getD 0) 0),
    t.drop ds.length)

/-- The character that an escape with a number stands for, behind the backslash. -/
def numberEscape? : Octets → Option (Char × Octets)
  | 'd' :: t => numbered? 10 3 t
  | 'o' :: t => numbered? 8 3 t
  | 'x' :: t => numbered? 16 2 t
  | 'c' :: c :: t =>
      let n := c.toUpper.toNat
      if n < 128 then some (Escape.octet (if n < 64 then n + 64 else n - 64), t) else none
  | _ => none

/-- The character that a letter behind a backslash stands for. -/
def letterOf? (c : Char) : Option Char :=
  match c with
  | 'n' => some '\n'
  | 't' => some '\t'
  | 'r' => some '\r'
  | 'f' => some '\x0c'
  | 'v' => some '\x0b'
  | 'a' => some '\x07'
  | _ => none

/-- A pattern with the escapes carried out that other programs do not know; the number bounds its
length. -/
def plainPattern : Nat → Octets → Octets
  | 0, t => t
  | _, [] => []
  | n + 1, '\\' :: t =>
      match numberEscape? t with
      | some (c, rest) =>
          (if "\\*[]^$.+?()\x7b\x7d|/\n".contains c && c ≠ '\n' then ['\\', c] else [c]) ++
            plainPattern n rest
      | none =>
          match t with
          | [] => ['\\']
          | c :: t =>
              (match if c = 'n' then none else letterOf? c with
                | some l => [l]
                | none => ['\\', c]) ++ plainPattern n t
  | n + 1, c :: t => c :: plainPattern n t

/-- Read an expression; the empty one stands for the one that was used last. -/
def expression (g : Grammar) (ignoresCase ofAnyLine : Bool) (pattern rest : Octets) :
    Except Fault (Option Regex) :=
  if pattern = [] then .ok none
  else
    let style : Regex.Style := { (if g.isExtended then Regex.Style.extended g.encoding
      else Regex.Style.basic g.encoding) with ignoresCase, ofAnyLine, isStrict := true }
    match Regex.parse style (plainPattern pattern.length pattern) with
    | .ok r => .ok (some r)
    | .error f => .error ⟨some rest.length, f.message⟩

/-! ## Addresses -/

/-- Read an address, if there is one. -/
def address? (g : Grammar) (t : Octets) : Except Fault (Option Address × Octets) :=
  let matchingUpTo (delimiter : Char) (t : Octets) : Except Fault (Option Address × Octets) :=
    match upTo? delimiter true (t.length + 1) false t with
    | none => failAt [] "unterminated address regex"
    | some (pattern, rest) => do
        let flags := rest.takeWhile fun c => c == 'I' || c == 'M'
        let rest := rest.drop flags.length
        return (some (.matching
          (← expression g (flags.contains 'I') (flags.contains 'M') pattern rest)), rest)
  match t with
  | '$' :: rest => .ok (some .last, rest)
  | '/' :: rest => matchingUpTo '/' rest
  | '\\' :: c :: rest => matchingUpTo c rest
  | t =>
      match digits t with
      | (none, _) => .ok (none, t)
      | (some n, rest) =>
          match rest with
          | '~' :: more =>
              let (step?, rest) := digits more
              .ok (some (.every n (step?.getD 0)), rest)
          | rest => .ok (some (.number n), rest)

/-- Read the end of a range. -/
def rangeEnd (g : Grammar) (t : Octets) : Reader RangeEnd := fun before =>
  match t with
  | '+' :: u | '~' :: u =>
      match digits u with
      | (some n, rest) => .ok (if t.head? = some '+' then .later n else .multiple n, rest)
      | (none, _) => failAt u "expected number"
  | t => do
      match ← address? g t with
      | (some a, rest) => return (.address a, rest)
      | (none, _) => failAt (before.drop 1) "unexpected \x60,'"

/-- Read which lines a command is meant for. -/
def selection (g : Grammar) : Reader Selection := fun t => do
  let (first?, rest) ← address? g t
  let (until?, rest) ← match first?, dropBlanks rest with
    | some _, ',' :: more => do
        let (e, rest) ← rangeEnd g (dropBlanks more) (dropBlanks more)
        pure (some e, rest)
    | _, _ => pure (none, rest)
  let isZero := match first?, until? with
    | some (.number 0), some (.address (.matching _)) => false
    | some (.number 0), _ => true
    | _, _ => false
  if isZero then failAt (rest.drop 1) "invalid usage of line address 0"
  else
    match dropBlanks rest with
    | '!' :: more =>
        let more := dropBlanks more
        if more.head? = some '!' then failAt (more.drop 1) "multiple \x60!'s"
        else return (⟨first?, until?, true⟩, more)
    | rest => return (⟨first?, until?, false⟩, rest)

/-! ## Parts of commands -/

/-- The pieces of a replacement; the number bounds its length. -/
def piecesWithin : Nat → Octets → List Piece
  | 0, _ | _, [] => []
  | n + 1, '\\' :: t =>
      match numberEscape? t, t with
      | some (c, rest), _ => .chars [c] :: piecesWithin n rest
      | none, [] => [.chars ['\\']]
      | none, c :: t =>
          let front : Piece :=
            if c.isDigit then .group (c.toNat - '0'.toNat)
            else match c with
              | 'U' => .casing .upper
              | 'L' => .casing .lower
              | 'u' => .casing .firstUpper
              | 'l' => .casing .firstLower
              | 'E' => .casing .none
              | c => .chars [(letterOf? c).getD c]
          front :: piecesWithin n t
  | n + 1, '&' :: t => .group 0 :: piecesWithin n t
  | n + 1, c :: t => .chars [c] :: piecesWithin n t

/-- The pieces of a replacement. -/
def pieces (t : Octets) : List Piece := piecesWithin t.length t

/-- How many groups an expression has. -/
def groupCount (g : Grammar) : Octets → Nat
  | '\\' :: c :: t => (if c = '(' && !g.isExtended then 1 else 0) + groupCount g t
  | c :: t => (if c = '(' && g.isExtended then 1 else 0) + groupCount g t
  | [] => 0

/-- A line of text behind a command, with the newlines that stand behind backslashes. -/
def textLines : Octets → Octets × Octets
  | [] => (['\n'], [])
  | '\\' :: c :: t =>
      let (u, rest) := textLines t
      (c :: u, rest)
  | c :: t =>
      if c = '\n' then (['\n'], t)
      else
        let (u, rest) := textLines t
        (c :: u, rest)

/-- Read the text of a command. -/
def commandText : Reader Octets := fun t =>
  match dropBlanks t with
  | [] => failAt [] "expected \\ after \x60a', \x60c' or \x60i'"
  | '\\' :: rest =>
      match dropBlanks rest with
      | '\n' :: rest => .ok (textLines rest)
      | [] => .ok ([], [])
      | _ => .ok (textLines rest)
  | rest => .ok (textLines rest)

/-- Read the name of a label. -/
def labelName (t : Octets) : Octets × Octets :=
  let t := dropBlanks t
  let name := t.takeWhile fun c => !isSpace c && c != ';'
  (name, t.drop name.length)

/-- Read the name of a file, which goes to the end of the line. -/
def fileName : Reader Octets := fun t =>
  let t := dropBlanks t
  let name := t.takeWhile (· != '\n')
  if name = [] then failAt t "missing filename in r/R/w/W commands"
  else .ok (name, t.drop name.length)

/-- Read the end of a command: nothing may stand there but the next command, behind a sign. -/
def commandEnd : Octets → Except Fault Octets := fun t =>
  match dropBlanks t with
  | [] => .ok []
  | '\n' :: rest | ';' :: rest => .ok rest
  | '}' :: rest => .ok ('}' :: rest)
  | '#' :: rest => .ok ('#' :: rest)
  | _ :: rest => failAt rest "extra characters after command"

/-- How the expression of a substitution is read. -/
structure Reading where
  ignoresCase : Bool
  ofAnyLine : Bool

/-- Fail if files and programs are out of reach. -/
def guarded (g : Grammar) (rest : Octets) : Except Fault Unit :=
  if g.isConfined then failAt rest "e/r/w commands disabled in sandbox mode" else .ok ()

/-- Read the flags of a substitution; the number bounds how many there are. -/
def flags (g : Grammar) :
    Nat → Substitution → Reading → Octets → Except Fault (Substitution × Reading × Octets)
  | 0, s, k, t => .ok (s, k, t)
  | n + 1, s, k, t =>
      match t with
      | 'g' :: rest =>
          if s.isGlobal then failAt rest "multiple \x60g' options to \x60s' command"
          else flags g n { s with isGlobal := true } k rest
      | 'p' :: rest =>
          if s.prints then failAt rest "multiple \x60p' options to \x60s' command"
          else flags g n { s with prints := true } k rest
      | 'I' :: rest | 'i' :: rest => flags g n s { k with ignoresCase := true } rest
      | 'm' :: rest | 'M' :: rest => flags g n s { k with ofAnyLine := true } rest
      | ' ' :: rest => flags g n s k rest
      | 'e' :: rest => do
          guarded g rest
          flags g n { s with executes := true } k rest
      | 'w' :: rest => do
          guarded g rest
          let (file, rest) ← fileName rest
          return ({ s with file? := some file }, k, rest)
      | c :: rest =>
          if c.isDigit then
            let (n?, rest) := digits t
            if s.nth ≠ 0 then failAt rest "multiple number options to \x60s' command"
            else if n? = some 0 then
              failAt rest "number option to \x60s' command may not be zero"
            else flags g n { s with nth := n?.getD 1 } k rest
          else if isSpace c || c == ';' || c == '}' || c == '#' then .ok (s, k, t)
          else failAt rest "unknown option to \x60s'"
      | [] => .ok (s, k, [])

/-- Read a substitution behind its letter. -/
def substitution (g : Grammar) : Reader Substitution := fun t =>
  let unclosed {α : Type} : Except Fault α := failAt [] "unterminated \x60s' command"
  match t with
  | [] => unclosed
  | delimiter :: t =>
      if delimiter = '\n' || delimiter = '\\' then unclosed
      else match upTo? delimiter true (t.length + 1) false t with
        | none => unclosed
        | some (pattern, t) =>
            match upTo? delimiter false (t.length + 1) false t with
            | none => unclosed
            | some (replacement, t) => do
                let ps := pieces replacement
                let (s, k, rest) ← flags g (t.length + 1)
                  ⟨none, ps, 0, false, false, false, none⟩ ⟨false, false⟩ t
                let highest := ps.foldl (fun n p => match p with
                  | .group k => max n k
                  | _ => n) 0
                if pattern ≠ [] && groupCount g pattern < highest then
                  .error ⟨some rest.length, text "invalid reference \\" ++ Text.ofNat highest ++
                    text " on \x60s' command's RHS"⟩
                else
                  let regex? ← expression g k.ignoresCase k.ofAnyLine pattern rest
                  return ({ s with regex?, nth := max 1 s.nth }, rest)

/-- The characters of one half of a translation; the number bounds its length. -/
def translated : Nat → Octets → Octets
  | 0, _ | _, [] => []
  | n + 1, '\\' :: t =>
      match numberEscape? t, t with
      | some (c, rest), _ => c :: translated n rest
      | none, [] => ['\\']
      | none, c :: t =>
          if c = '\\' then '\\' :: translated n t
          else match letterOf? c with
            | some l => l :: translated n t
            | none => '\\' :: c :: translated n t
  | n + 1, c :: t => c :: translated n t

/-- Read a translation behind its letter. -/
def translation : Reader (List (Char × Char)) := fun t =>
  let unclosed {α : Type} : Except Fault α := failAt [] "unterminated \x60y' command"
  match t with
  | [] => unclosed
  | delimiter :: t =>
      match upTo? delimiter false (t.length + 1) false t with
      | none => unclosed
      | some (a, t) =>
          match upTo? delimiter false (t.length + 1) false t with
          | none => unclosed
          | some (b, rest) =>
              let (a, b) := (translated a.length a, translated b.length b)
              if a.length ≠ b.length then
                failAt rest "strings for \x60y' command are different lengths"
              else .ok (a.zip b, rest)

/-! ## Commands -/

/-- The version of programs that can be read. -/
def knownVersion : Octets := text "4.9"

/-- The commands that are no more than a letter. -/
def plainDeed? : Char → Option Deed
  | '=' => some .printNumber
  | 'd' => some .delete
  | 'D' => some .deleteFirst
  | 'h' => some .hold
  | 'H' => some .holdMore
  | 'g' => some .fetch
  | 'G' => some .fetchMore
  | 'x' => some .exchange
  | 'n' => some .next
  | 'N' => some .nextMore
  | 'p' => some .print
  | 'P' => some .printFirst
  | 'z' => some .clear
  | 'F' => some .printName
  | _ => none

/-- Read what a command does, behind its letter. -/
def deed (g : Grammar) (c : Char) : Reader Deed := fun t => do
  let ending {α : Type} (a : α) (rest : Octets) : Except Fault (α × Octets) := do
    return (a, ← commandEnd rest)
  let named (f : Octets → Deed) : Except Fault (Deed × Octets) := do
    guarded g t
    let (file, rest) ← fileName t
    return (f file, rest)
  match plainDeed? c with
  | some d => ending d t
  | none =>
      match c with
      | '{' => return (.openBlock, t)
      | 'a' => do
          let (u, rest) ← commandText t
          return (.append u, rest)
      | 'i' => do
          let (u, rest) ← commandText t
          return (.insert u, rest)
      | 'c' => do
          let (u, rest) ← commandText t
          return (.change u, rest)
      | 'v' =>
          let (name, rest) := labelName t
          if (Versions.compare name knownVersion).isGT then
            failAt rest "expected newer version of sed"
          else ending (.label []) rest
      | 'l' =>
          let (n?, rest) := digits (dropBlanks t)
          ending (.list n?) rest
      | 'e' => do
          guarded g t
          let command := (dropBlanks t).takeWhile (· != '\n')
          return (.execute command, (dropBlanks t).drop command.length)
      | ':' =>
          let (name, rest) := labelName t
          if name = [] then failAt rest "\":\" lacks a label" else ending (.label name) rest
      | 'b' =>
          let (name, rest) := labelName t
          ending (.jump name) rest
      | 't' =>
          let (name, rest) := labelName t
          ending (.jumpIf name) rest
      | 'T' =>
          let (name, rest) := labelName t
          ending (.jumpUnless name) rest
      | 'q' =>
          let (n?, rest) := digits (dropBlanks t)
          ending (.quit (n?.getD 0) false) rest
      | 'Q' =>
          let (n?, rest) := digits (dropBlanks t)
          ending (.quit (n?.getD 0) true) rest
      | 'r' => named .readFile
      | 'R' => named .readLine
      | 'w' => named .writeFile
      | 'W' => named .writeFirst
      | 's' => do
          let (s, rest) ← substitution g t
          ending (.substitute s) rest
      | 'y' => do
          let (ps, rest) ← translation t
          ending (.translate ps) rest
      | c => .error ⟨some t.length, text "unknown command: \x60" ++ [c, '\'']⟩

/-- Read commands; the number bounds how many there are, and `depth` is the number of blocks that
are open. -/
def commands (g : Grammar) : Nat → Nat → Octets → Except Fault Program
  | 0, _, _ => .ok []
  | n + 1, depth, t => do
      match t.dropWhile fun c => isSpace c || c == ';' with
      | [] => if depth = 0 then return [] else .error ⟨none, text "unmatched \x60\x7b'"⟩
      | '#' :: rest => commands g n depth (rest.dropWhile (· != '\n'))
      | t => do
          let (s, rest) ← selection g t
          match rest with
          | [] => failAt [] "missing command"
          | '}' :: rest =>
              if s.first?.isSome then failAt rest "\x7d doesn't want any addresses"
              else if depth = 0 then failAt rest "unexpected \x60\x7d'"
              else return ⟨s, .closeBlock⟩ :: (← commands g n (depth - 1) (← commandEnd rest))
          | c :: rest =>
              if c = '\n' || c = ';' then failAt rest "missing command"
              else if c = ':' && s.first?.isSome then failAt rest ": doesn't want any addresses"
              else if c = ',' then failAt rest "unexpected \x60,'"
              else if (c = '+' || c = '~') && s.first?.isNone then
                failAt (rest.dropWhile Char.isDigit) "invalid usage of +N or ~N as first address"
              else
                let (d, rest) ← deed g c rest
                let depth := if c = '{' then depth + 1 else depth
                return ⟨s, d⟩ :: (← commands g n depth rest)

/-- Read a program. -/
def parse (g : Grammar) (t : Octets) : Except Fault Program := commands g (t.length + 1) 0 t

end SkipAudit.Edit
