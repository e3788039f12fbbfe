/-
Keys: the parts of lines by which these are compared.
-/
import SkipAudit.Utility.Quantity
import SkipAudit.Utility.Sorting.Comparison

namespace SkipAudit

/-- A part of a line.  Fields are counted from zero. -/
structure Key where
  firstField : Nat
  /-- How many characters of the first field do not belong to the key. -/
  skipped : Nat
  /-- The last field, if there is one. -/
  lastField? : Option Nat
  /-- How many characters of the last field belong to the key; all for zero. -/
  taken : Nat
  startSkipsBlanks : Bool
  endSkipsBlanks : Bool
  comparison : Comparison
deriving DecidableEq, Repr

namespace Key

/-- The whole line. -/
def whole (c : Comparison) : Key := ⟨0, 0, none, 0, c.skipsBlanks, c.skipsBlanks, c⟩

/-! ## Parts of lines -/

/-- The text behind so many fields. -/
def behindFields (separator? : Option Char) : Nat → Octets → Octets
  | 0, t => t
  | n + 1, t =>
      match separator? with
      | some c => behindFields separator? n ((t.dropWhile (· != c)).drop 1)
      | none =>
          behindFields separator? n
            ((t.dropWhile Comparison.isBlank).dropWhile (!Comparison.isBlank ·))

/-- The text without blanks in front, if that is wanted. -/
def bareIf (yes : Bool) (t : Octets) : Octets := if yes then t.dropWhile Comparison.isBlank else t

/-- Where the key begins. -/
def start (k : Key) (separator? : Option Char) (t : Octets) : Nat :=
  let u := bareIf k.startSkipsBlanks (behindFields separator? k.firstField t)
  min t.length (t.length - u.length + k.skipped)

/-- Where the key ends. -/
def stop (k : Key) (separator? : Option Char) (t : Octets) : Nat :=
  match k.lastField? with
  | none => t.length
  | some field =>
      let u := behindFields separator? field t
      if k.taken = 0 then
        let rest := match separator? with
          | some c => u.dropWhile (· != c)
          | none => behindFields none 1 u
        t.length - rest.length
      else
        let u := bareIf k.endSkipsBlanks u
        min t.length (t.length - u.length + k.taken)

/-- The part of a line that the key means. -/
def of (k : Key) (separator? : Option Char) (t : Octets) : Octets :=
  (t.take (k.stop separator? t)).drop (k.start separator? t)

/-- Which characters of a line the comparison looks at: where they begin, and where they end. -/
def looksAt (k : Key) (separator? : Option Char) (t : Octets) : Nat × Nat :=
  let first := k.start separator? t
  let last := max first (k.stop separator? t)
  let part := (t.take last).drop first
  let bare := part.dropWhile Comparison.isBlank
  let begin := first + (part.length - bare.length)
  match k.comparison.kind with
  | .month => (begin, if Comparison.monthNumber bare = 0 then begin else begin + 3)
  | .floating =>
      (begin, match Floating.read? .extended bare with
        | some r => begin + (bare.length - r.rest.length)
        | none => begin)
  | .number | .unit =>
      let n := Comparison.leading bare
      let hasUnit := k.comparison.kind = .unit &&
        (n.rest.head?.map fun c => c = 'k' || Comparison.unitLetters.contains c).getD false
      (begin, if n.digits = 0 then begin else begin + n.size + (if hasUnit then 1 else 0))
  | _ => (first, last)

/-! ## Reading -/

/-- The complaint about a number in a key. -/
def badCount (c : Call) (what : String) (t : Octets) : Octets :=
  text what ++ text ": invalid count at start of " ++ c.quote t

/-- The complaint about a key. -/
def badKey (c : Call) (what : String) (t : Octets) : Octets :=
  text what ++ text ": invalid field specification " ++ c.quote t

/-- A number at the beginning of a text, and the rest. -/
def count (c : Call) (what : String) (t : Octets) : Except Octets (Nat × Octets) :=
  let u := t.dropWhile Signed64.isSpace
  let u := if u.head? = some '+' then u.drop 1 else u
  let (n, size, rest) := Signed64.digits 10 0 u
  if size = 0 then .error (badCount c what t) else .ok (n, rest)

/-- Read a key; `usual` is how lines are compared if nothing else is said. -/
def read (c : Call) (usual : Comparison) (t : Octets) : Except Octets Key := do
  let zeroField : Except Octets Unit := .error (badKey c "field number is zero" t)
  let (first, rest) ← count c "invalid number at field start" t
  if first = 0 then zeroField
  let (char, rest) ← match rest with
    | '.' :: u => do
        let (n, rest) ← count c "invalid number after '.'" u
        if n = 0 then .error (badKey c "character offset is zero" t)
        pure (n, rest)
    | u => pure (1, u)
  let ls := rest.takeWhile Comparison.letters.contains
  let (last?, taken, ms, rest) ← match rest.drop ls.length with
    | ',' :: u => do
        let (n, rest) ← count c "invalid number after ','" u
        if n = 0 then zeroField
        let (taken, rest) ← match rest with
          | '.' :: v => count c "invalid number after '.'" v
          | v => pure (0, v)
        let ms := rest.takeWhile Comparison.letters.contains
        pure (some (n - 1), taken, ms, rest.drop ms.length)
    | rest => pure (none, 0, [], rest)
  if rest ≠ [] then .error (badKey c "stray character in field spec" t)
  let own := Comparison.ofLetters (ls ++ ms)
  if own.isUsual && !own.isReverse then
    return ⟨first - 1, char - 1, last?, taken, usual.skipsBlanks, usual.skipsBlanks, usual⟩
  else return ⟨first - 1, char - 1, last?, taken, ls.contains 'b', ms.contains 'b', own⟩

end Key

end SkipAudit
