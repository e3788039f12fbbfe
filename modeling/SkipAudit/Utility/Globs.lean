/-
Patterns for names, as programs get them in their arguments.
-/
import SkipAudit.Shell.Pattern
import SkipAudit.Utility.Basic

namespace SkipAudit.Utility

/-- A pattern for names. -/
structure Glob where
  encoding : Encoding
  foldsCase : Bool
  pattern : Shell.Pattern

namespace Glob

/-- The characters of a pattern; a backslash takes the meaning from the next one, and in front of
a set `^` means the same as `!`. -/
def read : Text → Shell.Pattern
  | [] => []
  | ['\\'] => [⟨'\\', true⟩]
  | '\\' :: c :: t => ⟨c, true⟩ :: read t
  | '[' :: '^' :: t => ⟨'[', false⟩ :: ⟨'!', false⟩ :: read t
  | c :: t => ⟨c, false⟩ :: read t

/-- The pattern that a text spells. -/
def ofText (c : Call) (foldsCase : Bool) (t : Octets) : Glob :=
  let e := c.encoding
  let chars := e.decode t
  ⟨e, foldsCase, read (if foldsCase then chars.map e.lowered else chars)⟩

/-- A name matches. -/
def accepts (g : Glob) (name : Octets) : Bool :=
  let chars := g.encoding.decode name
  g.pattern.accepts (if g.foldsCase then chars.map g.encoding.lowered else chars)

/-- A name matches, where a point at its beginning has to be spelled out. -/
def acceptsVisible (g : Glob) (name : Octets) : Bool :=
  (name.head? ≠ some '.' || g.pattern.head?.any fun m => m.char == '.') && g.accepts name

end Glob

end SkipAudit.Utility
