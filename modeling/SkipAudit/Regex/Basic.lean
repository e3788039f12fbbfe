/-
Regular expressions, and what they match.

An expression leads from a spot in a text to all the spots behind a match, the preferred one
first; of two ways to the same spot only the preferred one is kept.  The match that counts is the
longest one at the first spot where there is any.
-/
import SkipAudit.Text.Octets
import Std.Data.HashSet

namespace SkipAudit

/-- A regular expression. -/
inductive Regex where
  | empty
  | single (accepts : Char → Bool)
  | both (first second : Regex)
  | either (first second : Regex)
  /-- So many times at least, and at most so many times if there is a limit. -/
  | repeated (least : Nat) (most? : Option Nat) (body : Regex)
  | group (number : Nat) (body : Regex)
  /-- The text that a group has matched. -/
  | again (number : Nat)
  /-- The beginning of the text, or of any of its lines. -/
  | lineStart (ofAny : Bool)
  | lineEnd (ofAny : Bool)
  /-- Between two characters of which the first is part of a word or not, and the second. -/
  | boundary (isWord : Char → Bool) (before after : Bool)
  | anyBoundary (isWord : Char → Bool) (wanted : Bool)

namespace Regex

/-- A spot in a text. -/
structure Spot where
  index : Nat
  before? : Option Char
  rest : Octets
  /-- What the groups have matched. -/
  groups : List (Nat × Octets)

namespace Spot

/-- The beginning of a text. -/
def start (t : Octets) : Spot := ⟨0, none, t, []⟩

/-- The next spot. -/
def next? (s : Spot) : Option Spot :=
  match s.rest with
  | [] => none
  | c :: t => some { s with index := s.index + 1, before? := some c, rest := t }

/-- The spot so many characters later. -/
def after (s : Spot) : Nat → Spot
  | 0 => s
  | n + 1 => match s.next? with
    | some s => s.after n
    | none => s

/-- The text from here to a later spot. -/
def upTo (s t : Spot) : Octets := s.rest.take (t.index - s.index)

/-- The spots without those whose place is among some or comes earlier in the row. -/
def distinctFrom (seen : Std.HashSet Nat) : List Spot → List Spot
  | [] => []
  | s :: ss =>
      if seen.contains s.index then distinctFrom seen ss
      else s :: distinctFrom (seen.insert s.index) ss

/-- The spots without those that can be reached in a preferred way. -/
def distinct (ss : List Spot) : List Spot :=
  match ss with
  | [] => []
  | [s] => [s]
  | ss => distinctFrom ∅ ss

/-- The spots behind characters that are accepted, at most so many, the last one first; `found`
are those that lie before. -/
def runs (accepts : Char → Bool) : Nat → Spot → List Spot → List Spot
  | 0, s, found => s :: found
  | n + 1, s, found =>
      match s.rest with
      | c :: t =>
          if accepts c then
            let next := { s with index := s.index + 1, before? := some c, rest := t }
            runs accepts n next (s :: found)
          else s :: found
      | [] => s :: found

end Spot

/-- The spots behind so many repetitions and more, as many as there are; the number bounds how
many. -/
def more (step : Spot → List Spot) (most? : Option Nat) : Nat → Nat → Spot → List Spot
  | 0, _, s => [s]
  | n + 1, done, s =>
      if most? = some done then [s]
      else
        let later := (step s).filter fun t => s.index < t.index
        Spot.distinct (later.flatMap (more step most? n (done + 1)) ++ [s])

/-- The spots behind exactly so many repetitions. -/
def exactly (step : Spot → List Spot) : Nat → Spot → List Spot
  | 0, s => [s]
  | n + 1, s => Spot.distinct ((step s).flatMap (exactly step n))

/-- The spots behind the matches at a spot. -/
def stops (r : Regex) (s : Spot) : List Spot :=
  match r with
  | .empty => [s]
  | .single accepts =>
      match s.rest with
      | c :: _ => if accepts c then s.next?.toList else []
      | [] => []
  | .both a b => Spot.distinct ((stops a s).flatMap (stops b))
  | .either a b => Spot.distinct (stops a s ++ stops b s)
  | .repeated least most? (.single accepts) =>
      (Spot.runs accepts (most?.getD s.rest.length) s []).filter fun t => s.index + least ≤ t.index
  | .repeated least most? body =>
      Spot.distinct ((exactly (stops body) least s).flatMap fun t =>
        more (stops body) most? (t.rest.length + 1) least t)
  | .group n body =>
      (stops body s).map fun t =>
        { t with groups := (n, s.upTo t) :: t.groups.filter (·.1 != n) }
  | .again n =>
      match s.groups.lookup n with
      | some u => if u.isPrefixOf s.rest then [s.after u.length] else []
      | none => []
  | .lineStart ofAny =>
      if s.before?.isNone || (ofAny && s.before? == some '\n') then [s] else []
  | .lineEnd ofAny =>
      if s.rest.isEmpty || (ofAny && s.rest.head? == some '\n') then [s] else []
  | .boundary isWord before after =>
      if s.before?.any isWord = before ∧ s.rest.head?.any isWord = after then [s] else []
  | .anyBoundary isWord wanted =>
      if (s.before?.any isWord != s.rest.head?.any isWord) = wanted then [s] else []

/-- A match: where it begins and where it ends. -/
structure Match where
  start : Spot
  stop : Spot

/-- The text of a match. -/
def Match.text (m : Match) : Octets := m.start.upTo m.stop

/-- The text of a group of a match; the whole match is the group zero. -/
def Match.group (m : Match) (n : Nat) : Octets :=
  if n = 0 then m.text else (m.stop.groups.lookup n).getD []

/-- The longest match at a spot. -/
def longestAt? (r : Regex) (s : Spot) : Option Match :=
  ((r.stops { s with groups := [] }).foldl (fun best? t =>
    match best? with
    | some (best : Spot) => if best.index < t.index then some t else best?
    | none => some t) none).map (⟨s, ·⟩)

/-- The first match from a spot on; the number bounds how far it is looked for. -/
def firstFrom? (r : Regex) : Nat → Spot → Option Match
  | 0, _ => none
  | n + 1, s =>
      match r.longestAt? s with
      | some m => some m
      | none => s.next?.bind (firstFrom? r n)

/-- The first match from a spot on. -/
def find? (r : Regex) (s : Spot) : Option Match := r.firstFrom? (s.rest.length + 1) s

/-- Some part of a text matches. -/
def occursIn (r : Regex) (t : Octets) : Bool := (r.find? (.start t)).isSome

/-- The spots of a text, in order. -/
def positionsFrom : Nat → Option Char → Octets → List Spot
  | i, before?, [] => [⟨i, before?, [], []⟩]
  | i, before?, c :: t => ⟨i, before?, c :: t, []⟩ :: positionsFrom (i + 1) (some c) t

/-- The spots of a text, in order. -/
def positions (t : Octets) : List Spot := positionsFrom 0 none t

/-- How many groups an expression has. -/
def groupCount : Regex → Nat
  | .both a b | .either a b => max (groupCount a) (groupCount b)
  | .repeated _ _ a => groupCount a
  | .group n a => max n (groupCount a)
  | _ => 0

/-- The expression that matches one text. -/
def ofText (same : Char → Char → Bool) (t : Octets) : Regex :=
  t.foldr (fun c r => .both (.single (same c)) r) .empty

end Regex

end SkipAudit
