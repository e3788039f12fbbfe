/-
Names and other texts as they stand in messages and listings: between quotation marks, with
escapes for what could not be read otherwise, or bare if nothing could be taken for anything else.
-/
import SkipAudit.Text.Encoding

namespace SkipAudit

/-- A way to show a text. -/
inductive Quoting where
  /-- As it is. -/
  | literal
  /-- For a shell, between quotation marks where it needs them. -/
  | shell
  /-- For a shell, always between quotation marks. -/
  | shellAlways
  /-- For a shell, with escapes for what cannot be printed. -/
  | shellEscape
  | shellEscapeAlways
  /-- Between double quotation marks, with escapes. -/
  | double
  /-- The same, but without the marks if there is nothing to escape. -/
  | doubleMaybe
  /-- With escapes and without marks. -/
  | escape
  /-- Between the marks of the language. -/
  | locale
  /-- The same, with double marks where the language has none of its own. -/
  | clocale
deriving DecidableEq, Repr

namespace Quoting

/-- The words for ways to quote. -/
def words : List (String × Quoting) :=
  [("literal", .literal), ("shell", .shell), ("shell-always", .shellAlways),
   ("shell-escape", .shellEscape), ("shell-escape-always", .shellEscapeAlways), ("c", .double),
   ("c-maybe", .doubleMaybe), ("escape", .escape), ("locale", .locale), ("clocale", .clocale)]

/-! ## Pieces of a text -/

/-- A piece of a text that is shown in one way: a character, or a byte that is none. -/
structure Unit where
  bytes : Octets
  isPrintable : Bool
deriving DecidableEq, Repr

/-- The pieces of a text. -/
def units (e : Encoding) (t : Octets) : List Quoting.Unit :=
  (e.decode t).map fun c => ⟨e.encodeChar c, e.isPrintable c⟩

/-- The letter of the escape for a byte, if it has one. -/
def escapeLetter? (c : Char) : Option Char :=
  match c.toNat with
  | 7 => some 'a'
  | 8 => some 'b'
  | 9 => some 't'
  | 10 => some 'n'
  | 11 => some 'v'
  | 12 => some 'f'
  | 13 => some 'r'
  | _ => none

/-- A byte as three digits of base eight. -/
def octal (c : Char) : Octets :=
  let n := c.toNat
  let digit (d : Nat) : Char := Char.ofNat (48 + d % 8)
  [digit (n / 64), digit (n / 8), digit n]

/-- What follows the backslash for a byte that is escaped; `next` is what comes behind. -/
def escapeOf (isShell : Bool) (c : Char) (next : Octets) : Octets :=
  match escapeLetter? c with
  | some l => [l]
  | none =>
      if c.toNat = 0 then
        if !isShell && next.head?.any Char.isDigit then text "000" else ['0']
      else octal c

/-! ## For a shell -/

/-- Characters that a shell takes for something else wherever they stand. -/
def special : List Char := " !\"$&()*;<=>[^|'?\\\n\r\t".toList ++ ['\x60']

/-- Characters that it takes for something else at the beginning. -/
def specialInFront : List Char := ['#', '~']

/-- A text needs quotation marks in front of a shell. -/
def needsQuotes (us : List Quoting.Unit) (escapes : Bool) (also : List Char) : Bool :=
  us.isEmpty ||
    us.any (fun u => u.bytes.any fun c => special.contains c || also.contains c) ||
    (match us with
      | [u] => u.bytes == ['\x7b'] || u.bytes == ['\x7d']
      | _ => false) ||
    (match us with
      | u :: _ => u.bytes.any specialInFront.contains
      | [] => false) ||
    (escapes && us.any (!·.isPrintable))

/-- The characters that mean the same between either kind of quotation marks. -/
def isHarmless (c : Char) : Bool :=
  c.isAlphanum || "%+,-./:]_@' ".contains c

/-- A text could as well stand between double quotation marks. -/
def fitsDouble (us : List Quoting.Unit) : Bool :=
  (us.zipIdx.all fun (u, i) =>
    match u.bytes with
    | [c] =>
        isHarmless c || (i = 0 && specialInFront.contains c) ||
          (us.length = 1 && (c == '\x7b' || c == '\x7d')) || (128 ≤ c.toNat && u.isPrintable)
    | _ => u.isPrintable)

/-- What stands between single quotation marks; `isOpen`: an escape has been begun. -/
def shellBody (escapes : Bool) (isOpen : Bool) : List Quoting.Unit → Octets
  | [] => []
  | u :: us =>
      let isEscaped := escapes && !u.isPrintable
      if isEscaped then
        (if isOpen then [] else text "'$'") ++
          u.bytes.flatMap (fun c => '\\' :: escapeOf true c []) ++ shellBody escapes true us
      else if u.bytes = ['\''] then text "'\\''" ++ shellBody escapes false us
      else (if isOpen then text "''" else []) ++ u.bytes ++ shellBody escapes false us

/-- A text between quotation marks for a shell. -/
def forShell (us : List Quoting.Unit) (escapes : Bool) : Octets :=
  if us.any (·.bytes == ['\'']) && fitsDouble us then
    '"' :: us.flatMap (·.bytes) ++ ['"']
  else '\'' :: shellBody escapes false us ++ ['\'']

/-! ## With escapes -/

/-- A text with escapes, where `right` is the mark at its end. -/
def escaped (right : Octets) (also : List Char) : List Quoting.Unit → Octets
  | [] => []
  | u :: us =>
      let next := (us.head?.map (·.bytes)).getD []
      (if !u.isPrintable then u.bytes.flatMap fun c => '\\' :: escapeOf false c next
        else if u.bytes = ['\\'] || (right ≠ [] && u.bytes = right) ||
          u.bytes.any also.contains then '\\' :: u.bytes
        else u.bytes) ++ escaped right also us

/-- The marks of the language. -/
def marks (e : Encoding) (isDouble : Bool) : Octets × Octets :=
  match e with
  | .utf8 => (Octets.ofText [Char.ofNat 0x2018], Octets.ofText [Char.ofNat 0x2019])
  | .bytes => if isDouble then (['"'], ['"']) else (['\''], ['\''])

/-- A text as it is shown.  The characters `also` count as ones that a shell takes for something
else, or are escaped. -/
def apply (q : Quoting) (e : Encoding) (also : List Char) (t : Octets) : Octets :=
  let us := units e t
  match q with
  | .literal => t
  | .shell => if needsQuotes us false also then forShell us false else t
  | .shellAlways => forShell us false
  | .shellEscape => if needsQuotes us true also then forShell us true else t
  | .shellEscapeAlways => forShell us true
  | .double => '"' :: escaped ['"'] also us ++ ['"']
  | .doubleMaybe =>
      if us.any fun u => !u.isPrintable || u.bytes == ['"'] || u.bytes.any also.contains then
        '"' :: escaped ['"'] [] us ++ ['"']
      else t
  | .escape => escaped [] also us
  | .locale =>
      let (left, right) := marks e false
      left ++ escaped right also us ++ right
  | .clocale =>
      let (left, right) := marks e true
      left ++ escaped right also us ++ right

end Quoting

end SkipAudit
