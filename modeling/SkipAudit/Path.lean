/-
Paths.

A path is a string of bytes.  It is shown as it was written, and compared by its components:
doubled slashes, inner `.` components and a final slash make no difference, a leading `.` does.
Components are ordered by kind first and by the bytes of their names second, so `a/b` stands
before `a-b`.
-/
import SkipAudit.Text.Octets

namespace SkipAudit

/-- The name of a directory entry. -/
abbrev Name := Octets

/-- A path, as written. -/
structure Path where
  written : Octets
deriving DecidableEq, Repr

/-- A component of a path. -/
inductive Component where
  /-- The root directory, at the start of an absolute path. -/
  | root
  /-- The current directory, written at the start of a path. -/
  | here
  /-- The parent directory. -/
  | up
  /-- An entry. -/
  | name (n : Name)
deriving DecidableEq, Repr

/-- The order of components. -/
def Component.le : Component → Component → Bool
  | .root, _ => true
  | .here, .root => false
  | .here, _ => true
  | .up, .root => false
  | .up, .here => false
  | .up, _ => true
  | .name a, .name b => Text.le a b
  | .name _, _ => false

namespace Path

/-- The path that a text spells. -/
def ofText (t : Text) : Path := ⟨Octets.ofText t⟩

/-- The path as people read it. -/
def shown (p : Path) : Text := Octets.toText p.written

/-- The component that a piece between slashes stands for, behind the start of a path. -/
def innerComponent (piece : Octets) : Option Component :=
  if piece = [] ∨ piece = ['.'] then none
  else if piece = ['.', '.'] then some .up
  else some (.name piece)

/-- The components of a written path. -/
def componentsOf : Octets → List Component
  | [] => []
  | '/' :: rest => .root :: (Text.cutAt '/' rest).filterMap innerComponent
  | w =>
      match Text.cutAt '/' w with
      | ['.'] :: rest => .here :: rest.filterMap innerComponent
      | pieces => pieces.filterMap innerComponent

/-- The components of a path. -/
def components (p : Path) : List Component := componentsOf p.written

/-- Two spellings of one path. -/
def same (p q : Path) : Bool := p.components == q.components

/-- Lexicographic order of component lists. -/
def componentsLe : List Component → List Component → Bool
  | [], _ => true
  | _ :: _, [] => false
  | a :: s, b :: t => if a = b then componentsLe s t else a.le b

/-- The order of paths, by component. -/
def le (p q : Path) : Bool := componentsLe p.components q.components

/-- The path starts at the root directory. -/
def isAbsolute (p : Path) : Bool := Text.startsWith ['/'] p.written

/-- The name that a path ends in: none if it ends in `.` alone, in `..` or at the root. -/
def fileName? (p : Path) : Option Name :=
  match p.components.getLast? with
  | some (.name n) => some n
  | _ => none

/-- `q` as seen from the directory `p`. -/
def join (p q : Path) : Path :=
  if q.isAbsolute then q
  else if p.written = [] ∨ p.written.getLast? = some '/' then ⟨p.written ++ q.written⟩
  else ⟨p.written ++ '/' :: q.written⟩

/-- The parts of a name before and after its last dot. -/
def cutAtLastDot : Name → Option (Octets × Octets)
  | [] => none
  | c :: n =>
      match cutAtLastDot n with
      | some (stem, ext) => some (c :: stem, ext)
      | none => if c = '.' then some ([], n) else none

/-- The extension of a name: what follows its last dot, if something precedes that. -/
def extension? (n : Name) : Option Octets :=
  match cutAtLastDot n with
  | some (_ :: _, ext) => some ext
  | _ => none

/-- The directories of a search path, in order. -/
def ofSearchPath (value : Octets) : List Path := (Text.cutAt ':' value).map Path.mk

end Path

end SkipAudit
