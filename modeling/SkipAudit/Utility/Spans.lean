/-
Lists of positions, such as `1,3-5,7-`, and what stands at them.
-/
import SkipAudit.Utility.Quantity

namespace SkipAudit.Utility

/-- A range of positions, counted from one. -/
structure Span where
  low : Nat
  high? : Option Nat
deriving DecidableEq, Repr

/-- A position lies in some range. -/
def inSpans (spans : List Span) (n : Nat) : Bool :=
  spans.any fun s => s.low ≤ n && s.high?.all (n ≤ ·)

namespace Span

/-- What positions are called in complaints. -/
structure Wording where
  fromOne : String
  badRange : String
  badNumber : String
  tooLarge : String

/-- The wording for bytes and characters. -/
def ofCharacters : Wording :=
  ⟨"byte/character positions are numbered from 1", "invalid byte or character range",
   "invalid byte/character position ", "byte/character offset "⟩

/-- The wording for fields. -/
def ofFields : Wording :=
  ⟨"fields are numbered from 1", "invalid field range", "invalid field value ", "field number "⟩

/-- Where the reading of a list stands. -/
structure Reading where
  spans : List Span
  initial : Nat
  value : Nat
  hasLow : Bool
  hasHigh : Bool
  hasDash : Bool
  /-- The digits of the number at hand. -/
  digits : Octets

/-- Nothing is read yet. -/
def Reading.start : Reading := ⟨[], 1, 0, false, false, false, []⟩

/-- End an element of a list. -/
def Reading.close (w : Wording) (r : Reading) : Except Octets Reading :=
  let next (s : Span) : Except Octets Reading := .ok { Reading.start with spans := r.spans ++ [s] }
  if r.hasDash then
    if !r.hasLow && !r.hasHigh then .error (text "invalid range with no endpoint: -")
    else if !r.hasHigh then next ⟨r.initial, none⟩
    else if r.value < r.initial then .error (text "invalid decreasing range")
    else next ⟨r.initial, some r.value⟩
  else if r.value = 0 then .error (text w.fromOne)
  else next ⟨r.value, some r.value⟩

/-- Read a list. -/
def read (c : Call) (w : Wording) : Reading → Octets → Except Octets (List Span)
  | r, [] => (r.close w).map (·.spans)
  | r, x :: t =>
      if x = '-' then
        if r.hasDash then .error (text w.badRange)
        else if r.hasLow && r.value = 0 then .error (text w.fromOne)
        else
          read c w { r with hasDash := true, initial := if r.hasLow then r.value else 1, value := 0
                            digits := [] } t
      else if x = ',' || x = ' ' || x = '\t' then do read c w (← r.close w) t
      else match Text.digit? x with
        | some d =>
            let value := r.value * 10 + d
            let digits := r.digits ++ [x]
            if greatestCount < value then
              .error (text w.tooLarge ++ c.quote (digits ++ t.takeWhile Char.isDigit) ++
                text " is too large")
            else
              read c w { r with value, digits, hasHigh := r.hasHigh || r.hasDash
                                hasLow := r.hasLow || !r.hasDash } t
        | none => .error (text w.badNumber ++ c.quote (x :: t))

end Span

/-- Read a list of ranges. -/
def spansOf (c : Call) (w : Span.Wording) (t : Octets) : Except Octets (List Span) :=
  Span.read c w .start t

/-- The elements at some positions. -/
def atPositions {α : Type} (wanted : Nat → Bool) (xs : List α) : List α :=
  (xs.mapIdx fun i x => if wanted (i + 1) then some x else none).filterMap id

end SkipAudit.Utility
