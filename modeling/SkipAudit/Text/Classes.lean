/-
Classes of characters, known by name in patterns and expressions.
-/
import SkipAudit.Text.Encoding

namespace SkipAudit.Encoding

/-- The character is a blank of any kind; one that does not break a line is none. -/
def isSpace (e : Encoding) (c : Char) : Bool :=
  let n := c.toNat
  c == ' ' || (9 ≤ n && n ≤ 13) ||
    (e == .utf8 && (n == 0x1680 || (0x2000 ≤ n && n ≤ 0x200A && n != 0x2007) || n == 0x2028 ||
      n == 0x2029 || n == 0x205F || n == 0x3000))

/-- The character is one of those of which words consist. -/
def isWordChar (e : Encoding) (c : Char) : Bool := e.isLetter c || c.isDigit || c == '_'

/-- The named classes of characters. -/
def classes (e : Encoding) : List (String × (Char → Bool)) :=
  let isHigh (c : Char) : Bool := e == .utf8 && 128 ≤ c.toNat
  let isMark (c : Char) : Bool := isHigh c && e.isPrintable c && !e.isLetter c && !e.isSpace c
  [("alpha", e.isLetter), ("digit", Char.isDigit),
   ("alnum", fun c => e.isLetter c || c.isDigit),
   ("upper", fun c => c.isUpper || (isHigh c && e.lowered c != c)),
   ("lower", fun c => c.isLower || (isHigh c && (e.raised c != c || c.toNat == 0xDF))),
   ("space", e.isSpace),
   ("blank", fun c => c == ' ' || c == '\t' || (isHigh c && e.isSpace c && c.toNat < 0x2028) ||
      (isHigh c && c.toNat == 0x3000)),
   ("punct", fun c => (32 < c.toNat && c.toNat < 127 && !c.isAlphanum) || isMark c),
   ("print", e.isPrintable),
   ("graph", fun c => e.isPrintable c && !e.isSpace c),
   ("cntrl", fun c => c.toNat < 32 || c.toNat == 127 ||
      (isHigh c && (c.toNat < 160 || c.toNat == 0x2028 || c.toNat == 0x2029))),
   ("xdigit", fun c => c.isDigit || ('a' ≤ c && c ≤ 'f') || ('A' ≤ c && c ≤ 'F'))]

/-- The class with a name. -/
def class? (e : Encoding) (name : Octets) : Option (Char → Bool) :=
  ((classes e).find? fun k => text k.1 == name).map (·.2)

end SkipAudit.Encoding
