/-
From expanded words to fields.

An expanded word is a row of chunks: text that stays together, and text that is cut into fields
at the separators.  A field is a pattern, since its escaped characters stand for themselves
when it is taken for one.
-/
import SkipAudit.Shell.Pattern
import SkipAudit.Shell.Session

namespace SkipAudit.Shell

/-- A part of an expanded word. -/
inductive Chunk where
  /-- Text that is not cut. -/
  | fixed (t : Octets) (escaped : Bool)
  /-- Texts between which there is a cut, and which are cut themselves. -/
  | split (parts : List Octets)
  /-- Texts between which there is a cut, and which are not cut. -/
  | separate (parts : List Octets)
  /-- A quotation mark: it makes a field of what is otherwise none. -/
  | mark
deriving DecidableEq, Repr

namespace Chunk

/-- The text of a chunk, the parts joined by a text. -/
def joined (sep : Octets) : Chunk → Octets
  | .fixed t _ => t
  | .split parts | .separate parts => (List.intersperse sep parts).flatten
  | .mark => []

/-- The chunk as a pattern, the parts joined by a text. -/
def toPattern (sep : Octets) : Chunk → Pattern
  | .fixed t escaped => t.map (⟨·, escaped⟩)
  | .split parts => Pattern.ofText (List.intersperse sep parts).flatten
  | .separate parts => (List.intersperse sep parts).flatten.map (⟨·, true⟩)
  | .mark => []

end Chunk

/-- Cutting into fields, on the way. -/
structure Cutting where
  /-- The fields that are complete, the newest first. -/
  fields : List Pattern
  /-- The characters of the next field, the newest first. -/
  current : Pattern
  /-- The next field is one even if it has no characters. -/
  isMarked : Bool
  /-- Blanks have just ended a field, and more blanks belong to them. -/
  isInBlanks : Bool
  /-- The chunk before was cut into separate parts. -/
  afterSeparate : Bool

namespace Cutting

/-- Nothing has been read yet. -/
def empty : Cutting := ⟨[], [], false, false, false⟩

/-- Nothing of the next field has been read. -/
def isAtStart (c : Cutting) : Bool := c.current.isEmpty && !c.isMarked

/-- Complete a field. -/
def complete (c : Cutting) : Cutting :=
  { c with fields := c.current.reverse :: c.fields, current := [], isMarked := false }

/-- Add a character that is no separator. -/
def add (c : Cutting) (x : PatternChar) : Cutting :=
  { c with current := x :: c.current, isInBlanks := false }

/-- A separator.  Blanks next to each other count as one separator, and together with another
separator among them too; `counts`: they do so here. -/
def separate (c : Cutting) (isBlank counts : Bool) : Cutting :=
  if c.isInBlanks then { c with isInBlanks := isBlank }
  else
    let c := if counts then { c with isInBlanks := isBlank } else c
    if c.isAtStart && c.isInBlanks then { c with isInBlanks := false } else c.complete

/-- A blank of the usual separators. -/
def isBlank (x : Char) : Bool := Session.defaultSeparators.contains x

/-- Cut a text at some separators. -/
def cut (separators : Octets) (counts : Bool) (c : Cutting) (t : Octets) : Cutting :=
  t.foldl (fun c x =>
    if separators.contains x then c.separate (isBlank x) counts else c.add ⟨x, false⟩) c

/-- Add a chunk. -/
def step (separators : Octets) (c : Cutting) : Chunk → Cutting
  | .fixed t escaped => { c with current := (t.map (⟨·, escaped⟩)).reverse ++ c.current }
  | .mark => { c with isMarked := true }
  | .split parts =>
      let counts := !c.afterSeparate
      let c := { c with isInBlanks := false }
      let c := match parts with
        | [] => c
        | p :: ps => ps.foldl (fun c p =>
            cut separators counts (c.separate true counts) p) (cut separators counts c p)
      { c with afterSeparate := false }
  | .separate parts =>
      let c := { c with isInBlanks := false }
      let addAll := fun (c : Cutting) (t : Octets) =>
        { c with current := (t.map (⟨·, true⟩)).reverse ++ c.current }
      let c := match parts with
        | [] => c
        | p :: ps => ps.foldl (fun c p => addAll c.complete p) (addAll c p)
      { c with afterSeparate := true, isMarked := c.isMarked || !parts.isEmpty }

end Cutting

/-- The fields of an expanded word. -/
def fieldsOf (separators : Octets) (chunks : List Chunk) : List Pattern :=
  let c := chunks.foldl (Cutting.step separators) .empty
  (if c.isAtStart then c else c.complete).fields.reverse

/-- The text of an expanded word that is one field, whatever is in it. -/
def textOf (sep : Octets) (chunks : List Chunk) : Octets := chunks.flatMap (Chunk.joined sep)

/-- The pattern of an expanded word that is one field. -/
def patternOf (sep : Octets) (chunks : List Chunk) : Pattern :=
  chunks.flatMap (Chunk.toPattern sep)

end SkipAudit.Shell
