/-
Programs that turn the order of what they read around.
-/
import SkipAudit.Regex.Parser
import SkipAudit.Utility.Parts

namespace SkipAudit.Utility

/-- Finds the last separator in front of a position: where it begins and where it ends. -/
abbrev Separator := Octets → Option (Nat × Nat)

/-- The last place at which a word stands in a text. -/
def lastPlace? (word t : Octets) : Option (Nat × Nat) :=
  let reversed := t.reverse
  let back := word.reverse
  let size := t.length
  let rec go (passed : Nat) : Octets → Option (Nat × Nat)
    | [] => none
    | c :: rest =>
        if back.isPrefixOf (c :: rest) then
          some (size - passed - word.length, size - passed)
        else go (passed + 1) rest
  if word = [] then none else go 0 reversed

/-- The last place at which an expression matches. -/
def lastMatch? (r : Regex) (t : Octets) : Option (Nat × Nat) :=
  let positions := Regex.positions t
  positions.dropLast.reverse.findSome? fun p =>
    (r.longestAt? p).map fun m => (p.index, m.stop.index)

/-- The records of a text in the order of the output; the number bounds how many there are.
`attachesBefore`: a separator belongs to the record behind it. -/
def recordsBackward (find : Separator) (attachesBefore : Bool) :
    Nat → Bool → Octets → Octets → List Octets
  | 0, _, scanned, rest => [scanned ++ rest]
  | n + 1, isFirst, scanned, rest =>
      match find scanned with
      | none => [scanned ++ rest]
      | some (start, stop) =>
          if attachesBefore then
            (scanned.drop start ++ rest) ::
              recordsBackward find attachesBefore n false (scanned.take start) []
          else
            let record := scanned.drop stop ++ rest
            let more := recordsBackward find attachesBefore n false (scanned.take start)
              ((scanned.take stop).drop start)
            if isFirst && record = [] then more else record :: more

/-- Show the records of inputs from the last to the first. -/
def tac : Utility := fun c =>
  withOptions 1 "brs:"
    [("before", 'b', .none), ("regex", 'r', .none), ("separator", 's', .needed)] c fun p => do
    let separator := (p.value? 's').getD ['\n']
    let find : Separator ←
      if p.has 'r' then
        if separator = [] then c.die 1 (text "separator cannot be empty")
        else match Regex.parse (.editor .bytes) separator with
          | .ok r => pure (lastMatch? r)
          | .error e => c.die 1 e.message
      else pure (lastPlace? (if separator = [] then [Octets.nul] else separator))
    (inputsOr p.rest).foldlM (fun status file => do
      match ← openInput file with
      | .error e =>
          c.warn (text "failed to open " ++ c.quoted file ++ text " for reading: " ++ e.reason)
          return 1
      | .ok fd =>
          let found ← Action.readAll fd
          closeInput fd
          match found with
          | .ok t =>
              let isPlain := !p.has 'b' && !p.has 'r' && separator = ['\n']
              say c (if isPlain then (linesOf t).reverse.flatten
                else (recordsBackward find (p.has 'b') (t.length + 1) true t []).flatten)
              return status
          | .error e =>
              c.warn (c.shown (inputName file) ++ text ": read error: " ++ e.reason)
              return 1) 0

/-- Show lines with their characters from the last to the first. -/
def rev : Utility := fun c =>
  withOptions 1 "" [] c fun p =>
    overTexts c p.rest fun t => (linesOf t).flatMap fun l =>
      c.encoding.encode (c.encoding.decode (bare l)).reverse ++ l.drop (bare l).length

end SkipAudit.Utility
