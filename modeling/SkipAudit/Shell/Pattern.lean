/-
Patterns, and the paths that match them.

In a pattern `*` stands for any text, `?` for any character and brackets for one of a set;
an escaped character stands for itself.  Paths are matched piece by piece, and a name that
begins with a dot only by a pattern that does.
-/
import SkipAudit.FileSystem.Basic
import SkipAudit.Text.Classes

namespace SkipAudit.Shell

/-- A character of a pattern. -/
structure PatternChar where
  char : Char
  escaped : Bool
deriving DecidableEq, Repr

/-- A pattern. -/
abbrev Pattern := List PatternChar

namespace Pattern

/-- The text that a pattern is written with. -/
def spelling (p : Pattern) : Octets := p.map (·.char)

/-- The pattern of a text in which nothing is escaped. -/
def ofText (t : Octets) : Pattern := t.map (⟨·, false⟩)

/-- A character of a pattern means something else than itself. -/
def isActive (c : PatternChar) (what : Char) : Bool := c.char == what && !c.escaped

/-! ## Sets -/

/-- The class that is named behind an opening bracket, and what comes behind it. -/
def class? (p : Pattern) : Option ((Char → Bool) × Pattern) := do
  let t ← Text.dropStart? [':'] p.spelling
  let name := t.takeWhile Char.isAlpha
  let _ ← Text.dropStart? (name ++ text ":]") t
  let accepts ← Encoding.bytes.class? name
  return (accepts, p.drop (name.length + 3))

/-- Whether a set has a character, and what comes behind the set; nothing if the set is not
closed.  `first`: no member has been read yet. -/
def setHas? (c : Char) : Nat → Bool → Bool → Pattern → Option (Bool × Pattern)
  | 0, _, _, _ => none
  | _ + 1, _, _, [] => none
  | n + 1, first, found, m :: rest =>
      if isActive m ']' && !first then some (found, rest)
      else match if isActive m '[' then class? rest else none with
        | some (accepts, rest) => setHas? c n false (found || accepts c) rest
        | none =>
            match rest with
            | d :: e :: rest' =>
                if isActive d '-' && !isActive e ']' then
                  setHas? c n false (found || (m.char ≤ c && c ≤ e.char)) rest'
                else setHas? c n false (found || m.char == c) rest
            | _ => setHas? c n false (found || m.char == c) rest

/-- Whether a set that begins behind an opening bracket has a character, and what comes behind
the set. -/
def set? (c : Char) (p : Pattern) : Option (Bool × Pattern) :=
  match p with
  | m :: rest =>
      if isActive m '!' then (setHas? c (p.length + 1) true false rest).map fun (b, r) => (!b, r)
      else setHas? c (p.length + 1) true false p
  | [] => none

/-! ## Matching -/

/-- The text matches the pattern; the number bounds the length of both. -/
def matchWithin : Nat → Pattern → Octets → Bool
  | 0, _, _ => false
  | _ + 1, [], t => t.isEmpty
  | n + 1, m :: p, t =>
      if isActive m '*' then
        matchWithin n p t || (match t with
          | [] => false
          | _ :: t => matchWithin n (m :: p) t)
      else match t with
        | [] => false
        | c :: t' =>
            if isActive m '?' then matchWithin n p t'
            else match if isActive m '[' then set? c p else none with
              | some (found, rest) => found && matchWithin n rest t'
              | none => m.char == c && matchWithin n p t'

/-- The text matches the pattern. -/
def accepts (p : Pattern) (t : Octets) : Bool := matchWithin (p.length + t.length + 1) p t

/-! ## Taking off what matches -/

/-- The places at which a text can be cut: in front of each character and behind the last. -/
def cuts (t : Octets) : List (Octets × Octets) :=
  (List.range (t.length + 1)).map fun i => (t.take i, t.drop i)

/-- The text without the start that matches. -/
def dropFront (p : Pattern) (longest : Bool) (t : Octets) : Octets :=
  let cs := if longest then (cuts t).reverse else cuts t
  match cs.find? fun (front, _) => p.accepts front with
  | some (_, rest) => rest
  | none => t

/-- The text without the end that matches. -/
def dropBack (p : Pattern) (longest : Bool) (t : Octets) : Octets :=
  let cs := if longest then cuts t else (cuts t).reverse
  match cs.find? fun (_, back) => p.accepts back with
  | some (rest, _) => rest
  | none => t

/-! ## Paths -/

/-- A set in brackets begins here. -/
def opensSet : Pattern → Bool
  | [] => false
  | m :: p => if isActive m '!' then p.tail.any (isActive · ']') else p.any (isActive · ']')

/-- Something in the pattern may match in more than one way. -/
def isMeta : Pattern → Bool
  | [] => false
  | m :: p => isActive m '*' || isActive m '?' || (isActive m '[' && opensSet p) || isMeta p

/-- The pieces of a pattern between slashes. -/
def pieces : Pattern → List Pattern
  | [] => [[]]
  | c :: p =>
      if c.char = '/' then [] :: pieces p
      else match pieces p with
        | [] => [[c]]
        | q :: qs => (c :: q) :: qs

/-- The names in a directory that match a piece of a pattern. -/
def namesIn (fs : FileSystem) (dir : Octets) (piece : Pattern) : List Octets :=
  match fs.listing? (if dir = [] then ⟨['.']⟩ else Path.mk dir) with
  | none => []
  | some l =>
      let names := [['.'], ['.', '.']] ++ l.entries.map (·.1)
      names.filter fun name =>
        (name.head? != some '.' || piece.head?.map (·.char) == some '.') && piece.accepts name

/-- The paths that match the pieces of a pattern, behind some path. -/
def pathsBehind (fs : FileSystem) : Octets → List Pattern → List Octets
  | start, [] => [start]
  | start, [piece] =>
      if isMeta piece then (namesIn fs start piece).map (start ++ ·)
      else
        let p := start ++ piece.spelling
        match fs.locate false (Path.mk p) with
        | .ok (.taken ..) => [p]
        | _ => []
  | start, piece :: rest =>
      if isMeta piece then
        (namesIn fs start piece).flatMap fun name => pathsBehind fs (start ++ name ++ ['/']) rest
      else pathsBehind fs (start ++ piece.spelling ++ ['/']) rest

/-- The paths that match a pattern, in order. -/
def paths (fs : FileSystem) (p : Pattern) : List Octets :=
  (pathsBehind fs [] (pieces p)).mergeSort Text.le

end Pattern

end SkipAudit.Shell
