/-
The program that counts lines, words, characters and bytes.
-/
import SkipAudit.Text.Classes
import SkipAudit.Utility.Copying

namespace SkipAudit.Utility

namespace Counting

/-- Counts of an input. -/
structure Counts where
  lines : Nat
  words : Nat
  characters : Nat
  bytes : Nat
  /-- The columns of the longest line. -/
  longest : Nat

/-- No counts. -/
def Counts.zero : Counts := ⟨0, 0, 0, 0, 0⟩

/-- Both counts together. -/
def Counts.plus (a b : Counts) : Counts :=
  ⟨a.lines + b.lines, a.words + b.words, a.characters + b.characters, a.bytes + b.bytes,
    max a.longest b.longest⟩

/-- Where the counting stands. -/
structure State where
  counts : Counts
  inWord : Bool
  column : Nat

/-- The end of a word. -/
def State.apart (s : State) : State :=
  if s.inWord then
    { s with inWord := false, counts := { s.counts with words := s.counts.words + 1 } }
  else s

/-- The end of a line, of which the column is told. -/
def State.broken (s : State) : State :=
  { s with column := 0, counts := { s.counts with longest := max s.counts.longest s.column } }

/-- A blank that does not break a line. -/
def isFirmBlank (ch : Char) : Bool :=
  ch.toNat = 0xA0 || ch.toNat = 0x2007 || ch.toNat = 0x202F || ch.toNat = 0x2060

/-- Count a character. -/
def State.count (e : Encoding) (s : State) (ch : Char) : State :=
  if e.isStray ch then s
  else
    let s := { s with counts := { s.counts with characters := s.counts.characters + 1 } }
    if ch = '\n' then
      ({ s with counts := { s.counts with lines := s.counts.lines + 1 } }.broken).apart
    else if ch = '\r' || ch = '\x0c' then s.broken.apart
    else if ch = '\t' then { s with column := s.column + (8 - s.column % 8) }.apart
    else if ch = ' ' then { s with column := s.column + 1 }.apart
    else if ch = '\x0b' then s.apart
    else if e.isPrintable ch then
      let s := { s with column := s.column + e.width ch }
      if e.isSpace ch || (e = .utf8 && isFirmBlank ch) then s.apart else { s with inWord := true }
    else if e.isSpace ch then s.apart
    else s

/-- The counts of a text. -/
def countsOf (e : Encoding) (t : Octets) : Counts :=
  let s := ((e.decode t).foldl (State.count e) ⟨.zero, false, 0⟩).broken.apart
  { s.counts with bytes := t.length }

/-- The letters of the counts, in the order in which they are shown. -/
def letters : List Char := ['l', 'w', 'm', 'c', 'L']

/-- The counts that are wanted. -/
def wanted (p : Parsed) : List Char :=
  match letters.filter p.has with
  | [] => ['l', 'w', 'c']
  | found => found

/-- The count for a letter. -/
def Counts.get (n : Counts) : Char → Nat
  | 'l' => n.lines
  | 'w' => n.words
  | 'm' => n.characters
  | 'c' => n.bytes
  | _ => n.longest

/-- A line with counts. -/
def line (wanted : List Char) (width : Nat) (n : Counts) (name? : Option Octets) : Octets :=
  (List.intersperse [' '] (wanted.map fun l => inField width (n.get l))).flatten ++
    (match name? with
      | some name => ' ' :: name
      | none => []) ++ ['\n']

/-- The bytes of the regular files among some inputs, and whether there are others. -/
def sizesOf (files : List Octets) : Action (Nat × Bool) := do
  let fs ← Action.request .look
  files.foldlM (fun (total, hasOthers) file => do
    if file = ['-'] then
      match ← Action.request (.inspect 0) with
      | some (.file identity) =>
          match fs.root.fileWith? identity with
          | some d => return (total + d.bytes.length, hasOthers)
          | none => return (total, true)
      | _ => return (total, true)
    else match fs.entry ⟨file⟩ with
      | .ok (.file d) => return (total + d.bytes.length, hasOthers)
      | .ok _ => return (total, true)
      | .error _ => return (total, hasOthers)) ((0, false) : Nat × Bool)

/-- How wide the columns are. -/
def columnWidth (files : List Octets) (wanted : List Char) : Action Nat := do
  if files.length = 1 && wanted.length = 1 then return 1
  else
    let (total, hasOthers) ← sizesOf files
    return max (Text.ofNat total).length (if hasOthers then 7 else 1)

end Counting

open Counting in
/-- Count lines, words and bytes. -/
def wc : Utility := fun c =>
  withOptions 1 "clLmw"
    [("bytes", 'c', .none), ("chars", 'm', .none), ("lines", 'l', .none),
     ("files0-from", 'φ', .needed), ("max-line-length", 'L', .none), ("words", 'w', .none)]
    c fun p => do
    let list? := p.value? 'φ'
    let files ← match list?, p.rest with
      | some _, x :: _ => do
          let _ ← Action.write 2 (c.complaint (text "extra operand " ++ c.quoted x) ++
            text "file operands cannot be combined with --files0-from\n" ++ c.hint)
          Action.exit 1
      | some list, [] =>
          match ← readInput list with
          | .ok t =>
              let names := Text.cutAt Octets.nul t
              pure (if names.getLast? = some [] then names.dropLast else names)
          | .error e =>
              c.die 1 (text "cannot open " ++ c.quoted list ++ text " for reading: " ++ e.reason)
      | none, rest => pure (inputsOr rest)
    let wanted := wanted p
    let width ← if list?.isSome then pure 1 else columnWidth files wanted
    let (status, sum, _) ← files.foldlM (fun (status, sum, number) file => do
      let name? := if p.rest = [] && list?.isNone then none
        else some (if file.contains '\n' then c.shown file else file)
      let tell (t : Octets) : Action (Nat × Counts × Nat) := do
        c.warn t
        return (1, sum, number + 1)
      if list? = some ['-'] && file = ['-'] then
        tell (text "when reading file names from stdin, no file name of " ++ c.quoted file ++
          text " allowed")
      else if file = [] && list?.isSome then
        tell (c.shown (list?.getD []) ++ ':' :: Text.ofNat number ++
          text ": invalid zero-length file name")
      else match ← openInput file with
        | .error e => tell (c.shown file ++ text ": " ++ e.reason)
        | .ok fd =>
            let found ← Action.readAll fd
            closeInput fd
            let (n, failed) ← match found with
              | .ok t => pure (countsOf c.encoding t, false)
              | .error e => do
                  c.warn (c.shown file ++ text ": " ++ e.reason)
                  pure (Counts.zero, true)
            say c (line wanted width n name?)
            return (if failed then 1 else status, sum.plus n, number + 1))
        ((0, .zero, 1) : Nat × Counts × Nat)
    if 1 < files.length then say c (line wanted width sum (some (text "total")))
    return status

end SkipAudit.Utility
