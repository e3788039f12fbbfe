/-
Moments as people spell them: dates, times of day, days of the week, zones, and distances from
another moment, in any order.

A text is cut into words, numbers and marks.  Each item is read from the tokens at its beginning;
what is left unsaid is taken from the moment at which the text is read.
-/
import SkipAudit.Calendar.Writing

namespace SkipAudit.Moment

/-! ## Tokens -/

/-- A unit of distances. -/
inductive Measure where
  | year
  | month
  /-- So many days. -/
  | days (n : Nat)
  | hour
  | minute
  | second
deriving DecidableEq, Repr

/-- A number as it stands in a text. -/
structure Numeral where
  value : Nat
  digits : Nat
  /-- A sign stands in front of it, and whether that is a minus sign. -/
  sign? : Option Bool
  /-- The nanoseconds behind its point, if it has one. -/
  fraction? : Option Nat
deriving DecidableEq, Repr

/-- A part of a text. -/
inductive Token where
  | number (n : Numeral)
  | month (n : Nat)
  | day (n : Nat)
  /-- Before noon, or after it. -/
  | half (isAfternoon : Bool)
  | measure (m : Measure)
  | ordinal (n : Int)
  | dayShift (n : Int)
  /-- The other way round, or not. -/
  | direction (isBack : Bool)
  /-- A zone, by its seconds ahead. -/
  | zone (offset : Int)
  /-- The letter between a date and a time of day. -/
  | separator
  | mark (c : Char)
deriving DecidableEq, Repr

/-- The integer that a number is. -/
def Numeral.signed (n : Numeral) : Int := if n.sign? = some true then -(n.value : Int) else n.value

/-- The units. -/
def measures : List (String × Measure) :=
  [("year", .year), ("month", .month), ("fortnight", .days 14), ("week", .days 7),
   ("day", .days 1), ("hour", .hour), ("minute", .minute), ("min", .minute), ("second", .second),
   ("sec", .second)]

/-- Zones by their names, in quarters of an hour. -/
def zones : List (String × Int) :=
  [("gmt", 0), ("ut", 0), ("utc", 0), ("wet", 0), ("west", 4), ("bst", 4), ("art", -12),
   ("brt", -12), ("brst", -8), ("nst", -14), ("ndt", -10), ("ast", -16), ("adt", -12),
   ("clt", -16), ("clst", -12), ("est", -20), ("edt", -16), ("cst", -24), ("cdt", -20),
   ("mst", -28), ("mdt", -24), ("pst", -32), ("pdt", -28), ("akst", -36), ("akdt", -32),
   ("hst", -40), ("hast", -40), ("hadt", -36), ("sst", -48), ("wat", 4), ("cet", 4),
   ("cest", 8), ("met", 4), ("mez", 4), ("mest", 8), ("mesz", 8), ("eet", 8), ("eest", 12),
   ("cat", 8), ("sast", 8), ("eat", 12), ("msk", 12), ("msd", 16), ("ist", 22), ("sgt", 32),
   ("kst", 36), ("jst", 36), ("gst", 40), ("nzst", 48), ("nzdt", 52)]

/-- Zones by single letters, in hours. -/
def letterZones : List (Char × Int) :=
  ("abcdefghiklm".toList.zip ([1, 2, 3, 4, 5, 6, 7, 8, 9, 10, 11, 12] : List Int)) ++
    ("nopqrsuvwxy".toList.zip
      ([-1, -2, -3, -4, -5, -6, -8, -9, -10, -11, -12] : List Int)) ++ [('z', 0)]

/-- Words for a place in a row. -/
def ordinals : List (String × Int) :=
  [("last", -1), ("this", 0), ("next", 1), ("first", 1), ("third", 3), ("fourth", 4),
   ("fifth", 5), ("sixth", 6), ("seventh", 7), ("eighth", 8), ("ninth", 9), ("tenth", 10),
   ("eleventh", 11), ("twelfth", 12)]

/-- Words for days near the day of reading. -/
def dayShifts : List (String × Int) :=
  [("tomorrow", 1), ("yesterday", -1), ("today", 0), ("now", 0)]

/-- The number of a name of which at least so many letters are given, where that is asked for. -/
def named? (names : List String) (more : List (String × Nat)) (w : Octets) : Option Nat :=
  let lower (s : String) : Octets := (text s).map Char.toLower
  let isShort := w.length = 3 || (w.length = 4 && w.getLast? = some '.')
  let found := names.findIdx? fun s =>
    w = lower s || (isShort && (lower s).take 3 = w.take 3)
  found.or (more.findSome? fun (s, i) => if text s = w then some i else none)

/-- The token that a word stands for. -/
def wordToken? (word : Octets) : Option Token :=
  let w := word.map Char.toLower
  let find {α : Type} (table : List (String × α)) (w : Octets) : Option α :=
    table.findSome? fun (s, a) => if text s = w then some a else none
  let singular := if w.getLast? = some 's' then w.dropLast else w
  let bare := w.filter (· != '.')
  if bare = text "am" && (w = bare || w = text "a.m.") then some (.half false)
  else if bare = text "pm" && (w = bare || w = text "p.m.") then some (.half true)
  else
    ((named? monthNames [("sept", 8)] w).map fun i => Token.month (i + 1)).orElse fun _ =>
    ((named? dayNames [("tues", 2), ("wednes", 3), ("thur", 4), ("thurs", 4)] w).map
      Token.day).orElse fun _ =>
    ((find zones w).map fun n => Token.zone (n * 900)).orElse fun _ =>
    ((find measures w).map Token.measure).orElse fun _ =>
    ((find measures singular).map Token.measure).orElse fun _ =>
    ((find ordinals w).map Token.ordinal).orElse fun _ =>
    ((find dayShifts w).map Token.dayShift).orElse fun _ =>
    (if w = text "ago" then some (.direction true)
      else if w = text "hence" then some (.direction false) else none).orElse fun _ =>
    (match w with
      | ['t'] => some Token.separator
      | [c] => (letterZones.lookup c).map fun n => Token.zone (n * 3600)
      | _ => none).orElse fun _ =>
    (find zones bare).map fun n => Token.zone (n * 900)

/-- A blank between tokens. -/
def isGap (c : Char) : Bool := c = ' ' || ('\t' ≤ c && c ≤ '\r')

/-- The nanoseconds that digits behind a point stand for; what is finer is dropped, downward. -/
def fractionOf (ds : Octets) : Nat :=
  (Text.toNat? ((ds ++ List.replicate 9 '0').take 9)).getD 0

/-- A text without what stands in parentheses at its beginning. -/
def behindComment : Nat → Octets → Octets
  | _, [] => []
  | n, '(' :: t => behindComment (n + 1) t
  | n, ')' :: t => if n ≤ 1 then t else behindComment (n - 1) t
  | n, c :: t => if n = 0 then c :: t else behindComment n t

/-- The tokens of a text, if all of it can be read; the number bounds how many there are. -/
def tokens? : Nat → Octets → Option (List Token)
  | 0, _ => none
  | _, [] => some []
  | n + 1, c :: t =>
      if isGap c then tokens? n t
      else if c = '(' then tokens? n (behindComment 0 (c :: t))
      else if c.isDigit || c = '-' || c = '+' then
        let sign? := if c.isDigit then none else some (c == '-')
        let t := if c.isDigit then c :: t else t.dropWhile isGap
        let ds := t.takeWhile Char.isDigit
        if ds = [] then tokens? n t
        else
          let rest := t.drop ds.length
          let value := (Text.toNat? ds).getD 0
          let (fraction?, rest) : Option Nat × Octets := match rest with
            | p :: d :: u =>
                if (p = '.' || p = ',') && d.isDigit then
                  let fs := (d :: u).takeWhile Char.isDigit
                  (some (fractionOf fs), (d :: u).drop fs.length)
                else (none, rest)
            | _ => (none, rest)
          (tokens? n rest).map (.number ⟨value, ds.length, sign?, fraction?⟩ :: ·)
      else if c.isAlpha then do
        let w := (c :: t).takeWhile fun x => x.isAlpha || x = '.'
        let token ← wordToken? w
        let more ← tokens? n ((c :: t).drop w.length)
        return token :: more
      else (tokens? n t).map (.mark c :: ·)

/-! ## Items -/

/-- What a text has said. -/
structure Said where
  /-- A year, and with how many digits. -/
  year : Int
  yearDigits : Nat
  month : Int
  day : Int
  hour : Int
  minute : Int
  second : Int
  nanoseconds : Int
  half? : Option Bool
  dayOrdinal : Int
  weekday : Nat
  zone : Int
  dates : Nat
  times : Nat
  days : Nat
  zones : Nat
  hasDistance : Bool
  /-- Distances in years, months, days and in nanoseconds. -/
  years : Int
  months : Int
  moreDays : Int
  more : Int
deriving Repr

namespace Said

/-- So many times a unit further. -/
def further (s : Said) (n : Int) (m : Measure) : Said :=
  let s := { s with hasDistance := true }
  match m with
  | .year => { s with years := s.years + n }
  | .month => { s with months := s.months + n }
  | .days k => { s with moreDays := s.moreDays + n * k }
  | .hour => { s with more := s.more + n * 3600 * perSecond }
  | .minute => { s with more := s.more + n * 60 * perSecond }
  | .second => { s with more := s.more + n * perSecond }

/-- A date. -/
def dated (s : Said) (year : Int) (digits : Nat) (month day : Int) : Said :=
  { s with dates := s.dates + 1, year, yearDigits := digits, month, day }

/-- A date without a year. -/
def datedInYear (s : Said) (month day : Int) : Said :=
  { s with dates := s.dates + 1, month, day }

/-- A time of day. -/
def timed (s : Said) (hour minute second nanoseconds : Int) (half? : Option Bool) : Said :=
  { s with times := s.times + 1, hour, minute, second, nanoseconds, half? }

/-- A zone. -/
def inZone (s : Said) (offset : Int) : Said := { s with zones := s.zones + 1, zone := offset }

/-- A number by itself: a year, a date or a time of day. -/
def numbered (s : Said) (n : Numeral) : Said :=
  if 0 < s.dates && s.yearDigits = 0 && !s.hasDistance && (0 < s.times || 2 < n.digits) then
    { s with year := n.value, yearDigits := n.digits }
  else if 4 < n.digits then
    { s with
      dates := s.dates + 1, day := (n.value % 100 : Nat), month := (n.value / 100 % 100 : Nat)
      year := (n.value / 10000 : Nat), yearDigits := n.digits - 4 }
  else if n.digits ≤ 2 then s.timed n.value 0 0 0 none
  else s.timed (n.value / 100 : Nat) (n.value % 100 : Nat) 0 0 none

end Said

/-- The seconds that a number with a sign is ahead, with minutes behind a colon. -/
def offsetOf? (n : Numeral) (minutes? : Option Nat) : Option Int :=
  let value := if n.digits ≤ 2 && minutes?.isNone then n.value * 100 else n.value
  let m := match minutes? with
    | none => value / 100 * 60 + value % 100
    | some m => n.value * 60 + m
  if 24 * 60 < m then none
  else some (if n.sign? = some true then -(m * 60 : Int) else (m * 60 : Int))

/-- A zone as a number at the beginning of some tokens, if there is one. -/
def numericZone (ts : List Token) : Option (Option Int × List Token) :=
  match ts with
  | .number n :: rest =>
      if n.sign?.isSome && n.fraction?.isNone then match rest with
        | .mark ':' :: .number m :: rest =>
            if m.sign?.isSome then none
            else (offsetOf? n (some m.value)).map fun z => (some z, rest)
        | rest => (offsetOf? n none).map fun z => (some z, rest)
      else some (none, ts)
  | _ => some (none, ts)

/-- What was said of a time of day, with the zone behind it. -/
def withZone (s : Said) (ts : List Token) : Option (Said × List Token) := do
  let (z?, rest) ← numericZone ts
  return (match z? with
    | some z => s.inZone z
    | none => s, rest)

/-- The part of an hour behind its number: minutes, seconds, half a day and a zone. -/
def timeOfDay (s : Said) (h : Numeral) (ts : List Token) : Option (Said × List Token) :=
  match ts with
  | .half p :: rest => some (s.timed h.value 0 0 0 (some p), rest)
  | .mark ':' :: .number m :: rest =>
      if m.sign?.isSome || m.fraction?.isSome then none
      else match rest with
        | .half p :: rest => some (s.timed h.value m.value 0 0 (some p), rest)
        | .mark ':' :: .number x :: rest =>
            if x.sign?.isSome then none
            else
              let s' (half? : Option Bool) : Said :=
                s.timed h.value m.value x.value (x.fraction?.getD 0) half?
              match rest with
              | .half p :: rest => some (s' (some p), rest)
              | rest => withZone (s' none) rest
        | rest => withZone (s.timed h.value m.value 0 0 none) rest
  | _ => none

/-- A distance that may be turned around by the word behind it. -/
def distance (s : Said) (n : Int) (nanoseconds : Nat) (m : Measure) (ts : List Token) :
    Said × List Token :=
  let add (n fraction : Int) : Said :=
    let s := s.further n m
    { s with more := s.more + fraction }
  let fraction : Int := if n < 0 then -(nanoseconds : Int) else nanoseconds
  match ts with
  | .direction isBack :: rest =>
      (if isBack then add (-n) (-fraction) else add n fraction, rest)
  | rest => (add n fraction, rest)

/-- Read the item at the beginning of some tokens. -/
def item (s : Said) : List Token → Option (Said × List Token)
  | [] => none
  | .number n :: .number m :: .number d :: .separator :: .number h :: rest =>
      if n.sign?.isNone && m.sign? = some true && d.sign? = some true then
        let s := s.dated n.value n.digits m.value d.value
        match timeOfDay s h rest with
        | some r => some r
        | none => withZone (s.timed h.value 0 0 0 none) rest
      else none
  | .number n :: rest =>
      let whole := n.sign?.isNone && n.fraction?.isNone
      match rest with
      | .measure m :: rest =>
          if n.fraction?.isSome && m ≠ .second then none
          else some (distance s n.signed (n.fraction?.getD 0) m rest)
      | _ =>
          if !whole then none
          else match timeOfDay s n rest with
            | some r => some r
            | none =>
                match rest with
                | .mark '/' :: .number d :: .mark '/' :: .number y :: rest =>
                    if 4 ≤ n.digits then some (s.dated n.value n.digits d.value y.value, rest)
                    else some (s.dated y.value y.digits n.value d.value, rest)
                | .mark '/' :: .number d :: rest => some (s.datedInYear n.value d.value, rest)
                | .month m :: .number y :: rest =>
                    if y.sign? = some true then some (s.dated y.value y.digits m n.value, rest)
                    else if y.sign?.isNone && !isClock rest then
                      some (s.dated y.value y.digits m n.value, rest)
                    else some (s.datedInYear m n.value, .number y :: rest)
                | .month m :: rest => some (s.datedInYear m n.value, rest)
                | .day d :: rest =>
                    some ({ s with days := s.days + 1, dayOrdinal := n.value, weekday := d }, rest)
                | .number m :: .measure k :: rest =>
                    if m.sign?.isSome then
                      let (s, rest) := distance (s.numbered n) m.signed 0 k rest
                      some (s, rest)
                    else some (s.numbered n, .number m :: .measure k :: rest)
                | .number m :: .number d :: rest =>
                    if m.sign? = some true && d.sign? = some true then
                      some (s.dated n.value n.digits m.value d.value, rest)
                    else if m.sign?.isSome then
                      withZone (s.timed n.value 0 0 0 none) (.number m :: .number d :: rest)
                    else some (s.numbered n, .number m :: .number d :: rest)
                | .number m :: rest =>
                    if m.sign?.isSome then
                      withZone (s.timed n.value 0 0 0 none) (.number m :: rest)
                    else some (s.numbered n, .number m :: rest)
                | rest => some (s.numbered n, rest)
  | .month m :: .number d :: .number y :: rest =>
      if d.sign?.isSome && y.sign?.isSome then some (s.dated y.value y.digits m d.value, rest)
      else if d.sign?.isSome then none
      else some (s.datedInYear m d.value, .number y :: rest)
  | .month m :: .number d :: .mark ',' :: .number y :: rest =>
      some (s.dated y.value y.digits m d.value, rest)
  | .month m :: .number d :: rest =>
      if d.sign?.isSome then none else some (s.datedInYear m d.value, rest)
  | .day d :: .mark ',' :: rest | .day d :: rest =>
      some ({ s with days := s.days + 1, dayOrdinal := 0, weekday := d }, rest)
  | .ordinal n :: .day d :: rest =>
      some ({ s with days := s.days + 1, dayOrdinal := n, weekday := d }, rest)
  | .ordinal n :: .measure m :: rest => some (distance s n 0 m rest)
  | .measure m :: rest => some (distance s 1 0 m rest)
  | .dayShift n :: rest => some (s.further n (.days 1), rest)
  | .zone z :: .number n :: .measure m :: rest =>
      if n.sign?.isSome then some (distance (s.inZone z) n.signed 0 m rest)
      else some (s.inZone z, .number n :: .measure m :: rest)
  | .zone z :: rest => do
      let (more?, rest) ← numericZone rest
      return (s.inZone (z + more?.getD 0), rest)
  | .separator :: rest => some (s.inZone (-7 * 3600), rest)
  | _ => none
where
  /-- The number in front belongs to a time of day. -/
  isClock : List Token → Bool
    | .mark ':' :: _ | .half _ :: _ => true
    | _ => false

/-- Read all items; the number bounds how many there are. -/
def items (s : Said) : Nat → List Token → Option Said
  | 0, _ => none
  | _, [] => some s
  | n + 1, ts => do
      let (s, rest) ← item s ts
      items s n rest

/-! ## Moments -/

/-- A year that may be given by its last two digits. -/
def fullYear (year : Int) (digits : Nat) : Int :=
  if digits = 2 then (if year < 69 then year + 2000 else year + 1900) else year

/-- The hour of the day, from the hour of half a day. -/
def hourOf? (hour : Int) (half? : Option Bool) : Option Nat :=
  match half? with
  | none => if 0 ≤ hour && hour < 24 then some hour.toNat else none
  | some isAfternoon =>
      if 0 < hour && hour ≤ 12 then
        some ((hour % 12).toNat + if isAfternoon then 12 else 0)
      else none

/-- The moment that was said, as seen from another one. -/
def ofSaid? (now : Moment) (s : Said) : Option Moment := do
  if 1 < s.times || 1 < s.dates || 1 < s.days || 1 < s.zones then none
  let today := now.civil
  let keepsTime := 0 < s.times || (s.hasDistance && s.dates = 0 && s.days = 0)
  let year := if s.yearDigits = 0 then today.year else fullYear s.year s.yearDigits
  let hour ← if keepsTime then hourOf? s.hour s.half? else some 0
  let minute := if keepsTime then s.minute else 0
  let second := if keepsTime then s.second else 0
  let nanoseconds := if keepsTime then s.nanoseconds else 0
  if s.month < 1 || s.day < 1 then none
  let c : Civil := ⟨year, s.month.toNat, s.day.toNat, hour, minute.toNat, second.toNat⟩
  if !c.isValid then none
  let toWeekday : Int := if 0 < s.days && s.dates = 0 then
      ((s.weekday + 7 - c.weekday) % 7 : Nat) +
        7 * (s.dayOrdinal - (if 0 < s.dayOrdinal && c.weekday ≠ s.weekday then 1 else 0))
    else 0
  let n := Civil.shifted (c.year + s.years) (c.month + s.months) (c.day + toWeekday + s.moreDays)
  let offset := if 0 < s.zones then s.zone else now.zone.offset
  let seconds := n * Civil.daySeconds + (hour * 3600 : Nat) + minute * 60 + second - offset
  return .ofNanoseconds now.zone (seconds * perSecond + nanoseconds + s.more)

/-- A moment given by its number of seconds. -/
def ofCount? (zone : Zone) (t : Octets) : Option Moment := do
  match ← tokens? (t.length + 1) t with
  | [.number n] =>
      let fraction : Int := n.fraction?.getD 0
      let total := n.value * perSecond + fraction
      return .ofNanoseconds zone (if n.sign? = some true then -total else total)
  | _ => none

/-- The moment that a text spells, as seen from another one. -/
def read? (now : Moment) (t : Octets) : Option Moment := do
  match t.dropWhile isGap with
  | '@' :: t => ofCount? now.zone t
  | t =>
      let ts ← tokens? (t.length + 1) t
      let c := now.civil
      let start : Said := ⟨c.year, 0, c.month, c.day, c.hour, c.minute, c.second, now.nanoseconds,
        none, 0, 0, 0, 0, 0, 0, 0, false, 0, 0, 0, 0⟩
      ofSaid? now (← items start (ts.length + 1) ts)

end SkipAudit.Moment
