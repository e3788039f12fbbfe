/-
White space.

The class is the Unicode property White_Space: 25 characters.  A line is blank when it
holds nothing else.
-/
import SkipAudit.Text.Basic

namespace SkipAudit

/-- The ranges of the Unicode property White_Space, first and last code point. -/
def whiteSpaceRanges : List (Nat × Nat) :=
  [(0x09, 0x0D), (0x20, 0x20), (0x85, 0x85), (0xA0, 0xA0), (0x1680, 0x1680),
   (0x2000, 0x200A), (0x2028, 0x2029), (0x202F, 0x202F), (0x205F, 0x205F), (0x3000, 0x3000)]

/-- The character has the property White_Space. -/
def isWhiteSpace (c : Char) : Bool :=
  whiteSpaceRanges.any fun r => r.1 ≤ c.toNat && c.toNat ≤ r.2

/-- The line holds white space only. -/
def Line.isBlank (l : Line) : Bool := l.all isWhiteSpace

end SkipAudit
