/-
Moments in a format: text with directives, each a percent sign with flags, a width and a letter.
-/
import SkipAudit.Calendar.Basic
import SkipAudit.Calendar.Zone

namespace SkipAudit

/-- A moment as it is seen in a zone. -/
structure Moment where
  /-- Seconds since the beginning of 1970. -/
  seconds : Int
  nanoseconds : Nat
  zone : Zone
deriving DecidableEq, Repr

namespace Moment

/-- The nanoseconds in a second. -/
def perSecond : Nat := 1000000000

/-- The moment so many nanoseconds after the beginning of 1970. -/
def ofNanoseconds (zone : Zone) (n : Int) : Moment :=
  ⟨n / perSecond, (n % perSecond).toNat, zone⟩

/-- The nanoseconds since the beginning of 1970. -/
def total (m : Moment) : Int := m.seconds * perSecond + m.nanoseconds

/-- The date and the time of day in the zone. -/
def civil (m : Moment) : Civil := .ofSeconds (m.seconds + m.zone.offset)

/-! ## Names -/

/-- The days of the week. -/
def dayNames : List String :=
  ["Sunday", "Monday", "Tuesday", "Wednesday", "Thursday", "Friday", "Saturday"]

/-- The months. -/
def monthNames : List String :=
  ["January", "February", "March", "April", "May", "June", "July", "August", "September",
   "October", "November", "December"]

/-- A name from a list. -/
def nameIn (names : List String) (i : Nat) : Octets := text (names[i]?.getD "?")

/-! ## Directives -/

/-- How a directive is filled up. -/
structure Filling where
  /-- One of `_`, `-`, `0` and `+`, if that is said. -/
  flag? : Option Char
  width? : Option Nat
  raises : Bool
  /-- Large letters become small ones, or the other way round. -/
  swaps : Bool

/-- A text in its field. -/
def Filling.onText (f : Filling) (t : Octets) : Octets :=
  let t := if f.raises then t.map Char.toUpper else t
  let width := if f.flag? = some '-' then 0 else f.width?.getD 0
  let fill := if f.flag? = some '0' || f.flag? = some '+' then '0' else ' '
  List.replicate (width - t.length) fill ++ t

/-- A number in its field: `digits` is how many it has at least, `usual` what it is filled up
with if nothing is said of that. -/
def Filling.onNumber (f : Filling) (digits : Nat) (usual : Char) (hasSign : Bool) (n : Int) :
    Octets :=
  let flag := f.flag?.getD usual
  let ds := Text.ofNat n.natAbs
  let sign : Octets :=
    if n < 0 then ['-']
    else if flag = '+' && hasSign && (digits < ds.length || digits < f.width?.getD 0) then ['+']
    else []
  if flag = '-' then sign ++ ds
  else
    let width := max digits (f.width?.getD 0)
    let missing := width - ds.length - (if f.width?.isSome || flag = '_' then sign.length else 0)
    if flag = '_' then List.replicate missing ' ' ++ sign ++ ds
    else sign ++ List.replicate missing '0' ++ ds

/-- The distance of a zone, with so many colons. -/
def offsetText (f : Filling) (colons : Nat) (offset : Int) : Octets :=
  let n := offset.natAbs
  let (h, m, s) := (n / 3600, n / 60 % 60, n % 60)
  let two (k : Nat) : Octets := (if k < 10 then ['0'] else []) ++ Text.ofNat k
  let tail : Octets := match colons with
    | 0 => two m
    | 1 => ':' :: two m
    | 2 => ':' :: two m ++ ':' :: two s
    | _ => if s ≠ 0 then ':' :: two m ++ ':' :: two s else if m ≠ 0 then ':' :: two m else []
  let sign : Octets := if offset < 0 then ['-'] else ['+']
  let flag := f.flag?.getD '0'
  let width := f.width?.getD 0
  let plain := if flag = '-' || flag = '_' then Text.ofNat h else two h
  let missing := width - (sign.length + plain.length + tail.length)
  if flag = '_' then
    let missing := max missing (if h < 10 then 1 else 0)
    List.replicate missing ' ' ++ sign ++ plain ++ tail
  else sign ++ List.replicate missing '0' ++ plain ++ tail

/-- The digits of a part of a second. -/
def fractionText (f : Filling) (n : Nat) : Octets :=
  let width := match f.width? with
    | some 0 | none => 9
    | some w => w
  let ds := Text.ofNat n
  let ds := (List.replicate (9 - ds.length) '0' ++ ds).take width
  let kept := match (ds.reverse.dropWhile (· == '0')).reverse with
    | [] => ['0']
    | ks => ks
  if f.flag? = some '-' then kept
  else kept ++ List.replicate (width - kept.length) (if f.flag? = some '_' then ' ' else '0')

/-- What a letter of a directive stands for, if it stands for something; the others stand for
formats of their own. -/
def part? (m : Moment) (f : Filling) (letter : Char) : Option Octets :=
  let c := m.civil
  let number (digits : Nat) (n : Int) : Option Octets := some (f.onNumber digits '0' false n)
  let yearly (digits : Nat) (n : Int) : Option Octets := some (f.onNumber digits '0' true n)
  let spaced (n : Nat) : Option Octets := some (f.onNumber 2 '_' false n)
  let name (t : Octets) : Option Octets :=
    some ({ f with raises := f.raises || f.swaps }.onText t)
  let hour12 := if c.hour % 12 = 0 then 12 else c.hour % 12
  let (week, weekYear) := c.isoWeek
  match letter with
  | 'a' => name ((nameIn dayNames c.weekday).take 3)
  | 'A' => name (nameIn dayNames c.weekday)
  | 'b' | 'h' => name ((nameIn monthNames (c.month - 1)).take 3)
  | 'B' => name (nameIn monthNames (c.month - 1))
  | 'C' => yearly 2 (Int.tdiv c.year 100)
  | 'd' => number 2 c.day
  | 'e' => spaced c.day
  | 'g' => number 2 (weekYear % 100)
  | 'G' => yearly 4 weekYear
  | 'H' => number 2 c.hour
  | 'I' => number 2 hour12
  | 'j' => number 3 (c.dayOfYear + 1)
  | 'k' => spaced c.hour
  | 'l' => spaced hour12
  | 'm' => number 2 c.month
  | 'M' => number 2 c.minute
  | 'n' => some (f.onText ['\n'])
  | 'N' => some (fractionText f m.nanoseconds)
  | 'p' | 'P' =>
      let half := text (if c.hour < 12 then "AM" else "PM")
      some (if letter = 'P' || f.swaps then
        { f with raises := false }.onText (half.map Char.toLower) else f.onText half)
  | 'q' => number 1 ((c.month + 2) / 3 : Nat)
  | 's' => number 1 m.seconds
  | 'S' => number 2 c.second
  | 't' => some (f.onText ['\t'])
  | 'u' => number 1 (if c.weekday = 0 then 7 else c.weekday : Nat)
  | 'U' => number 2 ((c.dayOfYear + 7 - c.weekday) / 7 : Nat)
  | 'V' => number 2 week
  | 'w' => number 1 c.weekday
  | 'W' => number 2 ((c.dayOfYear + 7 - (c.weekday + 6) % 7) / 7 : Nat)
  | 'y' => number 2 (c.year % 100)
  | 'Y' => yearly 4 c.year
  | 'z' => some (offsetText f 0 m.zone.offset)
  | 'Z' =>
      some (if f.swaps then { f with raises := false }.onText (m.zone.name.map Char.toLower)
        else f.onText m.zone.name)
  | _ => none

/-- The format that a letter stands for. -/
def formatFor? (letter : Char) : Option String :=
  match letter with
  | 'c' => some "%a %b %e %H:%M:%S %Y"
  | 'D' | 'x' => some "%m/%d/%y"
  | 'F' => some "%+4Y-%m-%d"
  | 'r' => some "%I:%M:%S %p"
  | 'R' => some "%H:%M"
  | 'T' | 'X' => some "%H:%M:%S"
  | _ => none

/-- The letters that may stand behind a modifier. -/
def lettersBehind (modifier : Char) : String :=
  if modifier = 'E' then "cCxXyY" else "dekHIlmMSuUVwWyb"

/-- The format that a letter stands for, with what is said of its field. -/
def formatIn? (f : Filling) (letter : Char) : Option Octets :=
  if letter = 'F' && (f.flag?.isSome || f.width?.isSome) then
    let width := f.width?.getD 0 - 6
    some (['%'] ++ f.flag?.toList ++ (if width = 0 then [] else Text.ofNat width) ++
      text "Y-%m-%d")
  else (formatFor? letter).map text

/-- A moment in a format; `inner` writes formats for which letters stand, and the number bounds
how long the format is. -/
def writeParts (m : Moment) (inner : Bool → Octets → Octets) (raises : Bool) :
    Nat → Octets → Octets
  | 0, _ => []
  | _, [] => []
  | n + 1, '%' :: '%' :: t => '%' :: writeParts m inner raises n t
  | n + 1, '%' :: t =>
      let flags := t.takeWhile fun c => "_-+0^#".contains c
      let afterFlags := t.drop flags.length
      let ds := afterFlags.takeWhile Char.isDigit
      let afterWidth := afterFlags.drop ds.length
      let (modifier?, rest) := match afterWidth with
        | 'E' :: u => (some 'E', u)
        | 'O' :: u => (some 'O', u)
        | u => (none, u)
      let colons := (rest.takeWhile (· == ':')).length
      let f : Filling := ⟨(flags.filter fun c => "_-+0".contains c).getLast?, Text.toNat? ds,
        raises || flags.contains '^', flags.contains '#'⟩
      match rest.drop colons with
      | [] => '%' :: t
      | letter :: more =>
          let asIs : Octets := '%' :: t.take (t.length - more.length)
          let part : Octets :=
            if modifier?.any fun x => (lettersBehind x).contains letter = false then asIs
            else if 0 < colons then
              if letter = 'z' then offsetText f colons m.zone.offset else asIs
            else match m.part? f letter, formatIn? f letter with
              | some u, _ => u
              | none, some format => f.onText (inner f.raises format)
              | none, none => asIs
          part ++ writeParts m inner raises n more
  | n + 1, c :: t => c :: writeParts m inner raises n t

/-- A moment in a format. -/
def write (m : Moment) (format : Octets) : Octets :=
  let flat (raises : Bool) (t : Octets) : Octets :=
    writeParts m (fun _ _ => []) raises (t.length + 1) t
  writeParts m flat false (format.length + 1) format

end Moment

end SkipAudit
