/-
The program that tells what the system keeps of entries, in a format.
-/
import SkipAudit.FileSystem.Permissions
import SkipAudit.Format.Directive
import SkipAudit.Format.Escape
import SkipAudit.Utility.Accounts
import SkipAudit.Utility.Dates
import SkipAudit.Utility.Deeds
import SkipAudit.Utility.Sizes

namespace SkipAudit.Utility

namespace Status

open Format (Directive)

/-- What a letter of a format stands for. -/
inductive Value where
  | words (t : Octets)
  | number (n : Nat)
  | inOctal (n : Nat)
  | inHex (n : Nat)
  | moment (nanoseconds : Int)
  /-- A name between quotation marks, with the target of a link. -/
  | name (target? : Option Octets)
  /-- A label that nothing has. -/
  | label
  | unknown

/-- An entry of which something is told. -/
structure Subject where
  name : Octets
  entry : Entry
  /-- How many names it has. -/
  names : Nat

/-- A directive with its letter. -/
structure Item where
  directive : Directive
  /-- There is a point without digits behind it. -/
  hasBarePoint : Bool

/-- What comes of a format. -/
structure Outcome where
  writes : List (Stream × Octets)
  hasFailed : Bool
  /-- A complaint that ends everything. -/
  fault? : Option Octets

/-- Nothing comes of it. -/
def Outcome.nothing : Outcome := ⟨[], false, none⟩

/-- With a text in front. -/
def Outcome.after (t : Octets) (o : Outcome) : Outcome :=
  { o with writes := (.output, t) :: o.writes }

/-! ## Kinds of entries -/

/-- The bits for the kind of an entry. -/
def kindBits (e : Entry) : Nat :=
  match kindLetter e with
  | 'd' => 0o040000
  | 'l' => 0o120000
  | 'p' => 0o010000
  | 'c' => 0o020000
  | _ => 0o100000

/-- The numbers of the device on which entries are kept. -/
def home : Nat × Nat := (0, 47)

/-- The numbers of a device as one. -/
def joined (n : Nat × Nat) : Nat := n.1 * 256 + n.2

/-! ## Letters -/

/-- The whole time as it is shown. -/
def wholeTime : Octets := text "%Y-%m-%d %H:%M:%S.%N %z"

/-- What a letter stands for, with one in front of it that chooses a part. -/
def valueOf (zone : Zone) (x : Subject) (part? : Option Char) (letter : Char) : Value :=
  let a := x.entry.attributes
  let device (n : Nat × Nat) : Value :=
    .number (match part? with
      | some 'H' => n.1
      | some _ => n.2
      | none => joined n)
  let time (n : Int) : Value := .words ((Moment.ofNanoseconds zone n).write wholeTime)
  match letter with
  | 'n' => .words x.name
  | 'N' => .name (match x.entry with
      | .link _ t => some t
      | _ => none)
  | 'd' => device home
  | 'D' => .inHex (joined home)
  | 'i' => .number a.identity
  | 'a' => .inOctal a.mode
  | 'A' => .words (kindLetter x.entry :: Permissions.listed a.mode)
  | 'f' => .inHex (kindBits x.entry ||| a.mode)
  | 'F' => .words (kindOf x.entry)
  | 'h' => .number x.names
  | 'u' => .number a.owner
  | 'U' => .words (Accounts.userName a.owner)
  | 'g' => .number a.group
  | 'G' => .words (Accounts.groupName a.group)
  | 'm' => .words ['/']
  | 's' => .number (sizeOf x.entry)
  | 'r' => device (numbersOf x.entry)
  | 'R' => .inHex (joined (numbersOf x.entry))
  | 't' => .inHex (numbersOf x.entry).1
  | 'T' => .inHex (numbersOf x.entry).2
  | 'B' => .number 512
  | 'b' => .number (roomOf x.entry / 512)
  | 'o' => .number fileBlock
  | 'w' => time a.changed
  | 'W' => .moment a.changed
  | 'x' => time a.accessed
  | 'X' => .moment a.accessed
  | 'y' => time a.modified
  | 'Y' => .moment a.modified
  | 'z' => time a.changed
  | 'Z' => .moment a.changed
  | 'C' => .label
  | _ => .unknown

/-- What a letter stands for where the whole file system is asked for. -/
def wholeValueOf (x : Subject) (letter : Char) : Value :=
  match letter with
  | 'n' => .words x.name
  | 'i' => .inHex 1
  | 'l' => .number FileSystem.maxName
  | 't' => .inHex 0x794c7630
  | 'T' => .words (text "overlayfs")
  | 'b' | 'c' | 'd' | 'f' | 'a' => .number 1
  | 's' | 'S' => .number fileBlock
  | _ => .unknown

/-! ## Values -/

/-- A directive of which only some flags count. -/
def keeping (flags : String) (d : Directive) : Directive :=
  { d with flags := d.flags.filter flags.toList.contains }

/-- Seconds with some digits behind the point; what does not fit is cut off. -/
def secondsText (i : Item) (n : Int) : Octets :=
  let d := keeping "-+ 0" i.directive
  let places := if i.hasBarePoint then 9 else d.precision?.getD 0
  let d := { d with precision? := none }
  if places = 0 then d.onInteger (n / Moment.perSecond)
  else
    let whole := n.natAbs / Moment.perSecond
    let ds := Text.ofNat (n.natAbs % Moment.perSecond)
    let ds := ((List.replicate (9 - ds.length) '0' ++ ds).take places)
    let ds := ds ++ List.replicate (places - ds.length) '0'
    d.placed true (d.sign (n < 0)) (Text.ofNat whole ++ '.' :: ds)

/-- A value in its field. -/
def Item.write (i : Item) (c : Call) (quoting : Quoting) (x : Subject) : Value → Octets
  | .words t => (keeping "-" i.directive).onText t
  | .number n => (keeping "-0" i.directive).onNatural 'u' n
  | .inOctal n => (keeping "-#0" i.directive).onNatural 'o' n
  | .inHex n => (keeping "-#0" i.directive).onNatural 'x' n
  | .moment n => secondsText i n
  | .name target? =>
      let d := keeping "-" i.directive
      let shown (t : Octets) : Octets := d.onText (quoting.apply c.encoding [] t)
      shown x.name ++ (match target? with
        | some t => text " -> " ++ shown t
        | none => [])
  | .label => (keeping "-" i.directive).onText ['?']
  | .unknown => ['?']

/-! ## Formats -/

/-- What stands between a percent sign and its letter, and what follows. -/
def readItem (t : Octets) : Item × Octets :=
  let flags := t.takeWhile "'-+ #0I".toList.contains
  let t := t.drop flags.length
  let width := t.takeWhile Char.isDigit
  let t := t.drop width.length
  let start : Directive := ⟨flags, (Text.toNat? width).getD 0, none⟩
  match t with
  | '.' :: t =>
      let places := t.takeWhile Char.isDigit
      (⟨{ start with precision? := some ((Text.toNat? places).getD 0) }, places == []⟩,
        t.drop places.length)
  | t => (⟨start, false⟩, t)

/-- What is written for an escape, with a warning if there is one, and what follows. -/
def readEscape (t : Octets) : Octets × Option Octets × Octets :=
  match t with
  | [] => (['\\'], some (text "warning: backslash at end of format"), [])
  | 'x' :: rest =>
      match Escape.hex? rest with
      | some (x, rest) => ([x], none, rest)
      | none => (['x'], some (text "warning: unrecognized escape '\\x'"), rest)
  | '"' :: rest => (['"'], none, rest)
  | x :: rest =>
      if Escape.isOctal x then
        let (x, rest) := Escape.octal 3 t
        ([x], none, rest)
      else match Escape.ofLetter? x with
        | some x => ([x], none, rest)
        | none => ([x], some (text "warning: unrecognized escape '\\" ++ [x, '\'']), rest)

/-- How formats are carried out. -/
structure Settings where
  valueOf : Subject → Option Char → Char → Value
  quoting : Quoting
  hasEscapes : Bool

/-- What comes of a format for an entry; the number bounds how long the format is. -/
def Settings.fill (k : Settings) (c : Call) (x : Subject) : Nat → Octets → Outcome
  | 0, _ | _, [] => .nothing
  | n + 1, '%' :: t =>
      let (i, rest) := readItem t
      let lead := '%' :: t.take (t.length - rest.length)
      match rest with
      | [] | '%' :: _ =>
          if lead = ['%'] then (k.fill c x n (rest.drop 1)).after ['%']
          else ⟨[], true, some (c.quote (lead ++ rest.take 1) ++ text ": invalid directive")⟩
      | letter :: rest =>
          let (part?, letter, rest) := match letter, rest with
            | 'H', 'd' :: rest => (some 'H', 'd', rest)
            | 'H', 'r' :: rest => (some 'H', 'r', rest)
            | 'L', 'd' :: rest => (some 'L', 'd', rest)
            | 'L', 'r' :: rest => (some 'L', 'r', rest)
            | letter, rest => (none, letter, rest)
          match k.valueOf x part? letter with
          | .label =>
              let o := (k.fill c x n rest).after (i.write c k.quoting x .label)
              { o with
                hasFailed := true
                writes := (.errors, c.complaint (text "failed to get security context of " ++
                  c.quoted x.name ++ text ": No data available")) :: o.writes }
          | value => (k.fill c x n rest).after (i.write c k.quoting x value)
  | n + 1, '\\' :: t =>
      if k.hasEscapes then
        let (u, warning?, rest) := readEscape t
        let o := (k.fill c x n rest).after u
        match warning? with
        | some w => { o with writes := (.errors, c.complaint w) :: o.writes }
        | none => o
      else (k.fill c x n t).after ['\\']
  | n + 1, b :: t => (k.fill c x n t).after [b]

/-! ## Usual formats -/

/-- The format for an entry, if none is given. -/
def usualFormat (e : Entry) : String :=
  "  File: %N\n  Size: %-10s\tBlocks: %-10b IO Block: %-6o %F\n" ++
    (if isNumbered e then
      "Device: %Hd,%Ld\tInode: %-10i  Links: %-5h Device type: %Hr,%Lr\n"
    else "Device: %Hd,%Ld\tInode: %-10i  Links: %h\n") ++
    "Access: (%04a/%10.10A)  Uid: (%5u/%8U)   Gid: (%5g/%8G)\n" ++
    "Access: %x\nModify: %y\nChange: %z\n Birth: %w\n"

/-- The format for an entry on one line. -/
def terseFormat : String := "%n %s %b %f %u %g %D %i %h %t %T %X %Y %Z %W %o\n"

/-- The format for a whole file system, if none is given. -/
def usualWholeFormat : String :=
  "  File: \"%n\"\n    ID: %-8i Namelen: %-7l Type: %T\n" ++
    "Block size: %-10s Fundamental block size: %S\n" ++
    "Blocks: Total: %-10b Free: %-10f Available: %a\nInodes: Total: %-10c Free: %d\n"

/-- The format for a whole file system on one line. -/
def terseWholeFormat : String := "%n %i %l %t %s %S %b %f %a %c %d\n"

/-! ## Files -/

/-- A format contains the letter for a name between quotation marks. -/
def asksForName : Octets → Bool
  | '%' :: 'N' :: _ => true
  | _ :: t => asksForName t
  | [] => false

/-- How names are quoted in a format. -/
def quotingOf (c : Call) (format : Octets) : Quoting :=
  if asksForName format then
    ((c.valueOf? "QUOTING_STYLE").bind fun w =>
      (Quoting.words.find? fun x => text x.1 == w).map (·.2)).getD .shellEscapeAlways
  else .literal

/-- The words for how fresh what is told has to be. -/
def freshness : List (String × Nat) := [("default", 0), ("never", 1), ("always", 2)]

/-- What a file is, or a complaint. -/
def subject (c : Call) (fs : FileSystem) (follows isWhole : Bool) (file : Octets) :
    Except Octets Subject :=
  let found (e : Entry) : Subject := ⟨file, e, fs.root.linkCount e⟩
  if file = ['-'] then
    if isWhole then
      .error (text "using '-' to denote standard input does not work in file system mode")
    else match fs.entry ⟨text "/proc/self/fd/0"⟩ with
      | .ok e => .ok (found e)
      | .error _ => .error (text "cannot stat standard input: " ++ FileError.badDescriptor.reason)
  else match if follows || isWhole then fs.entry ⟨file⟩ else entryAt fs file with
    | .ok e => .ok (found e)
    | .error e =>
        .error (cannot c (if isWhole then "cannot read file system information for"
          else "cannot statx") file e)

end Status

/-- Tell what the system keeps of entries. -/
def stat : Utility := fun c =>
  withOptions 1 "c:fLt"
    [("dereference", 'L', .none), ("file-system", 'f', .none), ("format", 'c', .needed),
     ("printf", 'π', .needed), ("terse", 't', .none), ("cached", 'κ', .needed)] c fun p => do
    for w in p.values 'κ' do
      let _ ← chosen 1 c "--cached" Status.freshness w
    if p.rest = [] then c.misuse 1 (text "missing operand")
    let isWhole := p.has 'f'
    let given? := (p.options.filter fun o => o.1 = 'c' || o.1 = 'π').getLast?
    let zone := zoneOf c
    forEach p.rest fun file => do
      let fs ← Action.request .look
      match Status.subject c fs (p.has 'L') isWhole file with
      | .error t => do
          c.warn t
          return 1
      | .ok x =>
          let format := match given? with
            | some (o, t) => if o = 'c' then t ++ ['\n'] else t
            | none => text (match isWhole, p.has 't' with
                | true, true => Status.terseWholeFormat
                | true, false => Status.usualWholeFormat
                | false, true => Status.terseFormat
                | false, false => Status.usualFormat x.entry)
          let k : Status.Settings :=
            { valueOf := if isWhole then fun x _ l => Status.wholeValueOf x l
                else Status.valueOf zone
              quoting := match given? with
                | some (_, t) => Status.quotingOf c t
                | none => .literal
              hasEscapes := given?.any (·.1 = 'π') }
          let o := k.fill c x format.length format
          let status ← deliver c ⟨if o.hasFailed then 1 else 0, o.writes⟩
          match o.fault? with
          | some t => c.die 1 t
          | none => return status

end SkipAudit.Utility
