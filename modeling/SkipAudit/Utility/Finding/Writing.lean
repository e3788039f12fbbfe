/-
How entries are shown in a search: in formats, and as lines with all that is known of them.
-/
import SkipAudit.FileSystem.Permissions
import SkipAudit.Format.Escape
import SkipAudit.Utility.Accounts
import SkipAudit.Utility.Dates
import SkipAudit.Utility.Finding.Basic

namespace SkipAudit.Utility.Finding

open Format (Directive)

/-! ## Reading formats -/

/-- A format on its way: the pieces, and the warnings about it. -/
structure ReadFormat where
  pieces : List Piece
  warnings : List Octets
  fault? : Option Octets

namespace ReadFormat

/-- With a piece in front. -/
def after (p : Piece) (f : ReadFormat) : ReadFormat := { f with pieces := p :: f.pieces }

/-- With a warning in front. -/
def warning (w : Octets) (f : ReadFormat) : ReadFormat := { f with warnings := w :: f.warnings }

/-- Nothing. -/
def nothing : ReadFormat := ⟨[], [], none⟩

end ReadFormat

/-- The letters of fields. -/
def fieldLetters : Octets := text "abcdDfFgGhHiklmMnpPsStuUyYZ"

/-- Read a format; the number bounds how long it is. -/
def readFormat : Nat → Octets → ReadFormat
  | 0, _ | _, [] => .nothing
  | n + 1, '%' :: t =>
      let flags := t.takeWhile "-+ #0".toList.contains
      let u := t.drop flags.length
      let width := u.takeWhile Char.isDigit
      let u := u.drop width.length
      let (places?, u) := match u with
        | '.' :: u =>
            let ds := u.takeWhile Char.isDigit
            (some ((Text.toNat? ds).getD 0), u.drop ds.length)
        | u => (none, u)
      let d : Directive := ⟨flags, (Text.toNat? width).getD 0, places?⟩
      match u with
      | [] => { ReadFormat.nothing with fault? := some (text "error: % at end of format string") }
      | '%' :: rest => (readFormat n rest).after (.words ['%'])
      | letter :: rest =>
          let timeField (which : Time) : ReadFormat :=
            match rest with
            | x :: rest => (readFormat n rest).after (.time d which x)
            | [] => (ReadFormat.nothing.after (.words ['%', letter])).warning
                (text "warning: format directive \x60%" ++ letter ::
                  text "' should be followed by another character")
          match letter with
          | 'A' => timeField .accessed
          | 'C' => timeField .changed
          | 'T' => timeField .modified
          | letter =>
              if fieldLetters.contains letter then (readFormat n rest).after (.field d letter)
              else ((readFormat n rest).after
                  (.words ('%' :: t.take (t.length - rest.length)))).warning
                (text "warning: unrecognized format directive \x60%" ++ [letter, '\''])
  | n + 1, '\\' :: t =>
      match t with
      | [] => (ReadFormat.nothing.after (.words ['\\'])).warning
          (text "warning: escape \x60\\' followed by nothing at all")
      | 'c' :: _ => ReadFormat.nothing.after .stop
      | x :: rest =>
          if Escape.isOctal x then
            let (x, rest) := Escape.octal 3 t
            (readFormat n rest).after (.words [x])
          else match if x = 'e' then none else Escape.ofLetter? x with
            | some x => (readFormat n rest).after (.words [x])
            | none => ((readFormat n rest).after (.words ['\\', x])).warning
                (text "warning: unrecognized escape \x60\\" ++ [x, '\''])
  | n + 1, c :: t => (readFormat n t).after (.words [c])

/-! ## Writing -/

/-- What is known for writing. -/
structure Book where
  fs : FileSystem
  zone : Zone
  now : Int

/-- The part of a second as ten digits. -/
def partOfSecond (m : Moment) : Octets :=
  let ds := Text.ofNat m.nanoseconds
  '.' :: List.replicate (9 - ds.length) '0' ++ ds ++ ['0']

/-- A moment as a letter asks for. -/
def timeText (m : Moment) (letter : Char) : Octets :=
  let plain (f : String) : Octets := m.write (text f)
  match letter with
  | '@' => Text.ofInt m.seconds ++ partOfSecond m
  | '+' => plain "%Y-%m-%d+%H:%M:%S" ++ partOfSecond m
  | 'S' => plain "%S" ++ partOfSecond m
  | 'T' | 'X' => plain "%H:%M:%S" ++ partOfSecond m
  | 'N' | 'q' => ['%', letter]
  | letter => m.write ['%', letter]

/-- The whole time of an entry. -/
def wholeTimeText (m : Moment) : Octets :=
  m.write (text "%a %b %e %H:%M:%S") ++ partOfSecond m ++ m.write (text " %Y")

/-- What an entry leads to. -/
def Book.targetOf (b : Book) (x : Item) : Except FileError Entry := b.fs.entry ⟨x.path⟩

/-- A field of a format for an entry. -/
def Book.field (b : Book) (x : Item) (d : Directive) (letter : Char) : Octets :=
  let a := x.entry.attributes
  let words (t : Octets) : Octets := { d with flags := d.flags.filter (· == '-') }.onText t
  let number (n : Nat) : Octets := words (Text.ofNat n)
  let whole (n : Int) : Octets := words (wholeTimeText (.ofNanoseconds b.zone n))
  match letter with
  | 'a' => whole a.accessed
  | 'c' => whole a.changed
  | 't' => whole a.modified
  | 'b' => number (roomOf x.entry / 512)
  | 'k' => number (roomOf x.entry / 1024)
  | 'd' => d.onInteger x.depth
  | 'D' => number 47
  | 'f' => words (baseOf x.path)
  | 'F' => words (text "overlay")
  | 'g' => words (Accounts.groupName a.group)
  | 'G' => number a.group
  | 'h' => words (placeOf x.path)
  | 'H' => words x.start
  | 'i' => number a.identity
  | 'l' => words (match x.entry with
      | .link _ t => t
      | _ => [])
  | 'm' => d.onNatural 'o' a.mode
  | 'M' => words (kindLetter x.entry :: Permissions.listed a.mode)
  | 'n' => number (b.fs.root.linkCount x.entry)
  | 'p' => words x.path
  | 'P' =>
      let t := x.path.drop x.start.length
      words (if x.depth = 0 then [] else t.dropWhile (· == '/'))
  | 's' => number (sizeOf x.entry)
  | 'S' => words (if sizeOf x.entry = 0 then ['1']
      else { d with precision? := none, width := 0 }.onQuotient 'g' false (roomOf x.entry)
        (sizeOf x.entry))
  | 'u' => words (Accounts.userName a.owner)
  | 'U' => number a.owner
  | 'y' => words [letterOf x.entry]
  | 'Y' => words (match x.entry, b.targetOf x with
      | .link .., .ok e => [letterOf e]
      | .link .., .error .tooManyLinks => ['L']
      | .link .., .error _ => ['N']
      | e, _ => [letterOf e])
  | _ => words []

/-- A format for an entry. -/
def Book.format (b : Book) (x : Item) : List Piece → Octets
  | [] => []
  | .words t :: ps => t ++ Book.format b x ps
  | .stop :: _ => []
  | .field d letter :: ps => b.field x d letter ++ Book.format b x ps
  | .time d which letter :: ps =>
      { d with flags := d.flags.filter (· == '-') }.onText
        (timeText (.ofNanoseconds b.zone (which.of x.entry)) letter) ++ Book.format b x ps

/-- A name in a line, with escapes for what could not be read. -/
def nameInLine (t : Octets) : Octets :=
  t.flatMap fun c =>
    if " \\\"".contains c then ['\\', c]
    else if 32 ≤ c.toNat && c.toNat < 127 then [c]
    else match Quoting.escapeLetter? c with
      | some l => if l = 'a' || l = 'v' then '\\' :: Quoting.octal c else ['\\', l]
      | none => '\\' :: Quoting.octal c

/-- An entry as a line with all that is known of it. -/
def Book.line (b : Book) (x : Item) : Octets :=
  let a := x.entry.attributes
  let right (n : Nat) (t : Octets) : Octets := List.replicate (n - t.length) ' ' ++ t
  let left (n : Nat) (t : Octets) : Octets := t ++ List.replicate (n - t.length) ' '
  let m := Moment.ofNanoseconds b.zone a.modified
  let isRecent := b.now - 180 * 86400 * Moment.perSecond < a.modified &&
    a.modified ≤ b.now + 3600 * Moment.perSecond
  let size := if isNumbered x.entry then
      right 3 (Text.ofNat (numbersOf x.entry).1) ++ text ", " ++
        right 3 (Text.ofNat (numbersOf x.entry).2)
    else right 8 (Text.ofNat (sizeOf x.entry))
  right 9 (Text.ofNat a.identity) ++ ' ' :: right 6 (Text.ofNat (roomOf x.entry / 1024)) ++
    ' ' :: kindLetter x.entry :: Permissions.listed a.mode ++
    ' ' :: right 3 (Text.ofNat (b.fs.root.linkCount x.entry)) ++
    ' ' :: left 8 (Accounts.userName a.owner) ++ ' ' :: left 8 (Accounts.groupName a.group) ++
    ' ' :: size ++
    ' ' :: m.write (text (if isRecent then "%b %e %H:%M" else "%b %e  %Y")) ++
    ' ' :: nameInLine x.path ++
    (match x.entry with
      | .link _ t => text " -> " ++ nameInLine t
      | _ => []) ++ ['\n']

end SkipAudit.Utility.Finding
