/-
Programs that show what is in directories.
-/
import SkipAudit.FileSystem.Permissions
import SkipAudit.Text.Versions
import SkipAudit.Utility.Accounts
import SkipAudit.Utility.Dates
import SkipAudit.Utility.Deeds
import SkipAudit.Utility.Globs
import SkipAudit.Utility.Sizes

namespace SkipAudit.Utility

namespace Listings

/-! ## What is asked for -/

/-- How entries are laid out. -/
inductive Layout where
  | long
  | commas
  /-- In columns that are filled one after the other. -/
  | vertical
  /-- In columns that are filled together. -/
  | horizontal
  | single
deriving DecidableEq

/-- The words for these. -/
def layoutWords : List (String × Layout) :=
  [("verbose", .long), ("long", .long), ("commas", .commas), ("horizontal", .horizontal),
   ("across", .horizontal), ("vertical", .vertical), ("single-column", .single)]

/-- The order of entries. -/
inductive Order where
  | none
  | name
  | time
  | size
  | ending
  | version
  | width
deriving DecidableEq

/-- The words for these. -/
def orderWords : List (String × Order) :=
  [("none", .none), ("time", .time), ("size", .size), ("extension", .ending),
   ("version", .version), ("width", .width)]

/-- Which time of an entry counts. -/
inductive Time where
  | modified
  | changed
  | accessed
  | born
deriving DecidableEq

/-- The words for these. -/
def timeWords : List (String × Time) :=
  [("atime", .accessed), ("access", .accessed), ("use", .accessed), ("ctime", .changed),
   ("status", .changed), ("birth", .born), ("creation", .born)]

/-- Which marks stand behind names. -/
inductive Marking where
  | none
  | slash
  | kinds
  | all
deriving DecidableEq

/-- The words for these. -/
def markingWords : List (String × Marking) :=
  [("none", .none), ("slash", .slash), ("file-type", .kinds), ("classify", .all)]

/-- Whether something happens at all times, never, or for a terminal. -/
inductive When where
  | always
  | never
  | terminal
deriving DecidableEq

/-- The words for these. -/
def whenWords : List (String × When) :=
  [("always", .always), ("yes", .always), ("force", .always), ("never", .never), ("no", .never),
   ("none", .never), ("auto", .terminal), ("tty", .terminal), ("if-tty", .terminal)]

/-- Which links are followed. -/
inductive Links where
  | never
  | operands
  /-- Those that lead to directories, among the operands. -/
  | operandsToDirectories
  | always
deriving DecidableEq

/-- Which entries are left out. -/
inductive Hiding where
  | points
  | dots
  | nothing
deriving DecidableEq

/-- How times are shown: one format for those long ago, and one for others. -/
structure TimeFormat where
  old : Octets
  recent : Octets

/-- How listings look. -/
structure Settings where
  layout : Layout
  order : Order
  isReverse : Bool
  directoriesFirst : Bool
  time : Time
  timeFormat : TimeFormat
  zone : Zone
  now : Int
  marking : Marking
  quoting : Quoting
  hidesControls : Bool
  links : Links
  left : Hiding
  ignored : List Glob
  hidden : List Glob
  isDeep : Bool
  asThemselves : Bool
  showsNumbers : Bool
  showsRoom : Bool
  showsContext : Bool
  showsOwner : Bool
  showsGroup : Bool
  showsAuthor : Bool
  numericOwners : Bool
  roomStyle : SizeStyle
  sizeStyle : SizeStyle
  /-- No line is longer; zero if lines may have any length. -/
  width : Nat
  tab : Nat
  lineEnd : Char

/-- An entry under a name. -/
structure Item where
  name : Octets
  path : Octets
  entry : Entry
  /-- Where a link leads to, if it leads anywhere. -/
  target? : Option Entry
  /-- How many names the entry has. -/
  names : Nat

/-! ## Order -/

/-- The time of an entry that counts. -/
def Settings.timeOf (k : Settings) (e : Entry) : Int :=
  match k.time with
  | .modified => e.attributes.modified
  | .changed => e.attributes.changed
  | .accessed => e.attributes.accessed
  | .born => e.attributes.changed

/-- The part of a name behind its last point, with the point. -/
def endingOf (name : Octets) : Octets :=
  if name.contains '.' then '.' :: (name.reverse.takeWhile (· != '.')).reverse else []

/-- The characters of a name as they are shown, without a mark. -/
def Settings.shownName (k : Settings) (c : Call) (forHeader : Bool) (name : Octets) : Octets :=
  let marks := match k.marking with
    | .none | .slash => []
    | .kinds => "=@|".toList
    | .all => "*=@|".toList
  let also := if k.quoting = .literal then []
    else if forHeader then [':'] else (if k.quoting = .escape then [' '] else []) ++ marks
  if k.quoting = .literal && k.hidesControls then
    let e := c.encoding
    (e.decode name).flatMap fun x => if e.isPrintable x then e.encode [x] else ['?']
  else k.quoting.apply c.encoding also name

/-- Two entries are in order; `a` comes first if nothing tells them apart. -/
def Settings.precedes (k : Settings) (c : Call) (a b : Item) : Bool :=
  let byName : Bool := Text.le a.name b.name
  let byThen (x y : Int) : Bool := if x = y then byName else y < x
  match k.order with
  | .none => true
  | .name => byName
  | .time => byThen (k.timeOf a.entry) (k.timeOf b.entry)
  | .size => byThen (sizeOf a.entry) (sizeOf b.entry)
  | .ending =>
      let x := endingOf a.name
      let y := endingOf b.name
      if x = y then byName else Text.le x y
  | .version =>
      match Versions.compare a.name b.name with
      | .lt => true
      | .gt => false
      | .eq => byName
  | .width =>
      let x := c.encoding.columns (k.shownName c false a.name)
      let y := c.encoding.columns (k.shownName c false b.name)
      if x = y then byName else x < y

/-- The entry is a directory, or a link to one. -/
def Item.leadsToDirectory (x : Item) : Bool :=
  isDirectoryEntry x.entry || x.target?.any isDirectoryEntry

/-- Entries in order. -/
def Settings.sorted (k : Settings) (c : Call) (xs : List Item) : List Item :=
  if k.order = .none then xs
  else
    let ys := xs.mergeSort (k.precedes c)
    let ys := if k.isReverse then ys.reverse else ys
    if k.directoriesFirst then
      ys.filter (·.leadsToDirectory) ++ ys.filter (!·.leadsToDirectory)
    else ys

/-! ## One entry -/

/-- The mark behind the name of an entry. -/
def markOf (m : Marking) (e : Entry) : Octets :=
  match m, kindLetter e with
  | .none, _ => []
  | _, 'd' => ['/']
  | .slash, _ => []
  | _, 'l' => ['@']
  | _, 'p' => ['|']
  | .all, '-' => if e.attributes.isExecutable then ['*'] else []
  | _, _ => []

/-- The widths of the columns in a listing. -/
structure Widths where
  number : Nat
  room : Nat
  context : Nat
  links : Nat
  owner : Nat
  group : Nat
  major : Nat
  minor : Nat
  size : Nat
  /-- Some name stands between quotation marks. -/
  hasQuotes : Bool

/-- The greatest of some widths. -/
def greatest (ts : List Octets) : Nat := (ts.map List.length).foldl max 0

/-- The name or number of a user. -/
def Settings.ownerOf (k : Settings) (n : Nat) : Octets :=
  if k.numericOwners then Text.ofNat n else Accounts.userName n

/-- The name or number of a group. -/
def Settings.groupOf (k : Settings) (n : Nat) : Octets :=
  if k.numericOwners then Text.ofNat n else Accounts.groupName n

/-- The room of an entry as it is shown. -/
def Settings.roomText (k : Settings) (x : Item) : Octets := k.roomStyle.write (roomOf x.entry)

/-- The styles whose quotation marks stand outside of the column of names. -/
def Settings.alignsQuotes (k : Settings) : Bool :=
  (k.quoting = .shell || k.quoting = .shellEscape || k.quoting = .doubleMaybe) &&
    (k.layout = .long || ((k.layout = .vertical || k.layout = .horizontal) && k.width ≠ 0))

/-- The widths for some entries. -/
def Settings.widths (k : Settings) (c : Call) (xs : List Item) : Widths :=
  let (numbered, sized) := (xs.map (·.entry)).partition isNumbered
  let majors := greatest (numbered.map fun e => Text.ofNat (numbersOf e).1)
  let minors := greatest (numbered.map fun e => Text.ofNat (numbersOf e).2)
  let sizes := greatest (sized.map fun e => k.sizeStyle.write (sizeOf e))
  { number := greatest (xs.map fun x => Text.ofNat x.entry.attributes.identity)
    room := greatest (xs.map k.roomText)
    context := 1
    links := greatest (xs.map fun x => Text.ofNat x.names)
    owner := greatest (xs.map fun x => k.ownerOf x.entry.attributes.owner)
    group := greatest (xs.map fun x => k.groupOf x.entry.attributes.group)
    major := majors
    minor := minors
    size := max sizes (if xs.any (isNumbered ·.entry) then majors + minors + 2 else 0)
    hasQuotes := k.alignsQuotes && xs.any fun x => k.shownName c false x.name ≠ x.name }

/-- A text in a field, at its right end. -/
def atRight (width : Nat) (t : Octets) : Octets := List.replicate (width - t.length) ' ' ++ t

/-- A text in a field, at its left end. -/
def atLeft (width : Nat) (t : Octets) : Octets := t ++ List.replicate (width - t.length) ' '

/-- What stands in front of a name in every layout. -/
def Settings.front (k : Settings) (w : Widths) (x : Item) : Octets :=
  let fits (n : Nat) : Nat := if k.layout = .commas then 0 else n
  (if k.showsNumbers then atRight (fits w.number) (Text.ofNat x.entry.attributes.identity) ++ [' ']
    else []) ++
  (if k.showsRoom then atRight (fits w.room) (k.roomText x) ++ [' '] else []) ++
  (if k.showsContext && k.layout ≠ .long then text "? " else [])

/-- The name of an entry, shifted if other names have quotation marks. -/
def Settings.nameText (k : Settings) (c : Call) (w : Widths) (name : Octets) : Octets :=
  let shown := k.shownName c false name
  if w.hasQuotes && shown = name then ' ' :: shown else shown

/-- An entry with its frills, for the short layouts. -/
def Settings.short (k : Settings) (c : Call) (w : Widths) (x : Item) : Octets :=
  k.front w x ++ k.nameText c w x.name ++ markOf k.marking x.entry

/-- Half of a year, in nanoseconds. -/
def halfYear : Int := 15778476 * Moment.perSecond

/-- The time of an entry as it is shown. -/
def Settings.timeText (k : Settings) (e : Entry) : Octets :=
  let t := k.timeOf e
  let isRecent := k.now - halfYear < t && t ≤ k.now
  (Moment.ofNanoseconds k.zone t).write (if isRecent then k.timeFormat.recent else k.timeFormat.old)

/-- The line of an entry in the long layout. -/
def Settings.line (k : Settings) (c : Call) (w : Widths) (x : Item) : Octets :=
  let a := x.entry.attributes
  let side (n : Nat) (t : Octets) : Octets :=
    (if k.numericOwners then atRight n t else atLeft n t) ++ [' ']
  let size := if isNumbered x.entry then
      let (major, minor) := numbersOf x.entry
      let room := w.size - (w.major + w.minor + 2)
      atRight (w.major + room) (Text.ofNat major) ++ text ", " ++ atRight w.minor (Text.ofNat minor)
    else atRight w.size (k.sizeStyle.write (sizeOf x.entry))
  let name := k.nameText c w x.name
  let named := match x.entry with
    | .link _ t =>
        name ++ text " -> " ++ k.shownName c false t ++
          (x.target?.map (markOf k.marking)).getD []
    | e => name ++ markOf k.marking e
  k.front w x ++ kindLetter x.entry :: Permissions.listed a.mode ++
    ' ' :: atRight w.links (Text.ofNat x.names) ++ [' '] ++
    (if k.showsOwner then side w.owner (k.ownerOf a.owner) else []) ++
    (if k.showsGroup then side w.group (k.groupOf a.group) else []) ++
    (if k.showsAuthor then side w.owner (k.ownerOf a.owner) else []) ++
    (if k.showsContext then text "? " else []) ++
    size ++ ' ' :: k.timeText x.entry ++ ' ' :: named ++ [k.lineEnd]

/-! ## Columns -/

/-- The least width of a column. -/
def leastWidth : Nat := 3

/-- The widths of so many columns that hold names of some lengths, if they fit. -/
def Settings.columnsOf? (k : Settings) (byColumns : Bool) (lengths : Array Nat) (count : Nat) :
    Option (List Nat) :=
  let rows := (lengths.size + count - 1) / count
  let place (i : Nat) : Nat := if byColumns then i / rows else i % count
  let widths := lengths.toList.zipIdx.foldl (fun (ws : Array Nat) (n, i) =>
    let j := place i
    let n := if j + 1 = count then n else n + 2
    ws.modify j (max n)) (Array.replicate count leastWidth)
  if count = 1 || Natural.total widths.toList < k.width then some widths.toList else none

/-- The greatest number of columns that fit, with their widths. -/
def Settings.columns (k : Settings) (byColumns : Bool) (lengths : Array Nat) : List Nat :=
  let most := min lengths.size (max 1 ((k.width + leastWidth - 1) / leastWidth))
  ((List.range most).reverse.findSome? fun i => k.columnsOf? byColumns lengths (i + 1)).getD []

/-- Blanks and tabs from one column to another; the first number bounds how many. -/
def indent (tab : Nat) : Nat → Nat → Nat → Octets
  | 0, _, _ => []
  | fuel + 1, start, target =>
      if target ≤ start then []
      else if tab ≠ 0 && (start + 1) / tab < target / tab then
        '\t' :: indent tab fuel (start + tab - start % tab) target
      else ' ' :: indent tab fuel (start + 1) target

/-- Some texts in a row of columns. -/
def Settings.row (k : Settings) : Nat → List Nat → List (Octets × Nat) → Octets
  | _, _, [] => [k.lineEnd]
  | _, _, [(t, _)] => t ++ [k.lineEnd]
  | place, w :: ws, (t, n) :: ts =>
      t ++ indent k.tab (w + 1) (place + n) (place + w) ++ Settings.row k (place + w) ws ts
  | place, [], (t, n) :: ts => t ++ [' '] ++ Settings.row k (place + n + 1) [] ts

/-- Texts with something in front of each; `place` is how far the line has come, or nothing at the
beginning. -/
def Settings.separated (k : Settings) (separator : Option Char) :
    Option Nat → List (Octets × Nat) → Octets
  | _, [] => [k.lineEnd]
  | none, (t, n) :: ts => t ++ Settings.separated k separator (some n) ts
  | some place, (t, n) :: ts =>
      let stays := k.width = 0 || place + n + 2 < k.width
      separator.toList ++ (if stays then ' ' else k.lineEnd) ::
        (t ++ Settings.separated k separator (some (if stays then place + 2 + n else n)) ts)

/-- The text for some entries, which are in order. -/
def Settings.textOf (k : Settings) (c : Call) (xs : List Item) : Octets :=
  if xs.isEmpty then []
  else
    let w := k.widths c xs
    let shorts := xs.map fun x =>
      let t := k.short c w x
      (t, c.encoding.columns t)
    match k.layout with
    | .long => xs.flatMap (k.line c w)
    | .single => shorts.flatMap fun x => x.1 ++ [k.lineEnd]
    | .commas => k.separated (some ',') none shorts
    | .vertical =>
        if k.width = 0 then k.separated none none shorts
        else
          let ws := k.columns true (shorts.map (·.2)).toArray
          let rows := (shorts.length + ws.length - 1) / ws.length
          (List.range rows).flatMap fun i =>
            k.row 0 ws ((List.range ws.length).filterMap fun j => shorts[j * rows + i]?)
    | .horizontal =>
        if k.width = 0 then k.separated none none shorts
        else
          let ws := k.columns false (shorts.map (·.2)).toArray
          let rows := (shorts.length + ws.length - 1) / ws.length
          (List.range rows).flatMap fun i =>
            k.row 0 ws ((shorts.drop (i * ws.length)).take ws.length)

/-! ## Directories -/

/-- An entry to show. -/
def itemAt (fs : FileSystem) (k : Settings) (name path : Octets) (e : Entry) : Item :=
  let resolved :=
    if k.links = .always && isLinkEntry e then ((fs.entry ⟨path⟩).toOption).getD e else e
  let target? := if isLinkEntry resolved then (fs.entry ⟨path⟩).toOption else none
  ⟨name, path, resolved, target?, fs.root.linkCount resolved⟩

/-- A name is shown. -/
def Settings.shows (k : Settings) (name : Octets) : Bool :=
  (match k.left with
    | .points => name.head? ≠ some '.' && !k.hidden.any (·.acceptsVisible name)
    | .dots => name ≠ ['.'] && name ≠ text ".."
    | .nothing => true) && !k.ignored.any (·.acceptsVisible name)

/-- What is shown of a directory. -/
def Settings.itemsOf (k : Settings) (fs : FileSystem) (path : Octets) (a : Attributes)
    (l : Listing) :
    List Item :=
  let dots := [(['.'], Entry.dir a l)] ++
    (match fs.entry ⟨inside path (text "..")⟩ with
    | .ok e => [(text "..", e)]
    | .error _ => [])
  ((dots ++ l.entries).filter fun x => k.shows x.1).map fun (n, e) =>
    itemAt fs k n (inside path n) e

/-- The text for what a directory holds. -/
def Settings.directoryText (k : Settings) (c : Call) (xs : List Item) : Octets :=
  (if k.layout = .long || k.showsRoom then
    let total := Natural.total (xs.map fun x => roomOf x.entry)
    text "total " ++ k.roomStyle.write total ++ [k.lineEnd]
    else []) ++ k.textOf c xs

/-- The texts for a directory and for those in it, with their headers if these are wanted; the
number bounds the depth. -/
def Settings.blocks (k : Settings) (c : Call) (fs : FileSystem) (isHeaded : Bool) :
    Nat → Octets → Attributes → Listing → List Octets
  | 0, _, _, _ => []
  | fuel + 1, path, a, l =>
      let xs := k.sorted c (k.itemsOf fs path a l)
      let header := if isHeaded then k.shownName c true path ++ [':', '\n'] else []
      (header ++ k.directoryText c xs) ::
        (if k.isDeep then
          xs.flatMap fun x =>
            match x.entry with
            | .dir a l =>
                if x.name = ['.'] || x.name = text ".." then []
                else Settings.blocks k c fs isHeaded fuel x.path a l
            | _ => []
        else [])

/-! ## Reading options -/

/-- The formats of times that a word stands for. -/
def timeStyle? (w : Octets) : Option TimeFormat :=
  let usual : TimeFormat := ⟨text "%b %e  %Y", text "%b %e %H:%M"⟩
  let known : List (String × TimeFormat) :=
    [("full-iso", ⟨text "%Y-%m-%d %H:%M:%S.%N %z", text "%Y-%m-%d %H:%M:%S.%N %z"⟩),
     ("long-iso", ⟨text "%Y-%m-%d %H:%M", text "%Y-%m-%d %H:%M"⟩),
     ("iso", ⟨text "%Y-%m-%d ", text "%m-%d %H:%M"⟩), ("locale", usual)]
  match w with
  | '+' :: t =>
      match t.span (· != '\n') with
      | (old, _ :: recent) => some ⟨old, recent⟩
      | (format, []) => some ⟨format, format⟩
  | w =>
      match Text.dropStart? (text "posix-") w with
      | some _ => some usual
      | none => ((fromTable known w).head?).map (·.2)

/-- The formats of times that are asked for. -/
def timeFormatOf (c : Call) (p : Parsed) : Action TimeFormat := do
  let asked := match p.lastOf? ['φ', 'ς'] with
    | some 'φ' => some (text "full-iso")
    | some _ => p.value? 'ς'
    | none => c.valueOf? "TIME_STYLE"
  match timeStyle? (asked.getD (text "locale")) with
  | some f => return f
  | none =>
      let w := asked.getD []
      let _ ← Action.write 2 (c.complaint (text "invalid argument " ++ c.quote w ++ text " for " ++
        c.quote (text "time style")) ++ text "Valid arguments are:\n" ++
        text "  - [posix-]full-iso\n  - [posix-]long-iso\n  - [posix-]iso\n  - [posix-]locale\n" ++
        text "  - +FORMAT (e.g., +%H:%M) for a 'date'-style format\n" ++ c.hint)
      Action.exit 2

/-- A number for a width, or the end with a complaint. -/
def widthOr (c : Call) (what : String) (t : Octets) : Action Nat :=
  match Signed64.natural t with
  | some (n, []) => pure n
  | _ => c.die 2 (text what ++ text ": " ++ c.quote t)

/-- The words of the options. -/
def words : List Word :=
  [("all", 'a', .none), ("almost-all", 'A', .none), ("author", 'α', .none), ("escape", 'b', .none),
   ("block-size", 'β', .needed), ("ignore-backups", 'B', .none), ("color", 'κ', .optional),
   ("directory", 'd', .none), ("dired", 'D', .none), ("classify", 'ψ', .optional),
   ("file-type", 'τ', .none), ("format", 'ω', .needed), ("full-time", 'φ', .none),
   ("group-directories-first", 'γ', .none), ("no-group", 'G', .none),
   ("human-readable", 'h', .none), ("si", 'σ', .none), ("dereference-command-line", 'H', .none),
   ("dereference-command-line-symlink-to-dir", 'χ', .none), ("hide", 'ι', .needed),
   ("hyperlink", 'υ', .optional), ("indicator-style", 'μ', .needed), ("inode", 'i', .none),
   ("ignore", 'I', .needed), ("kibibytes", 'k', .none), ("dereference", 'L', .none),
   ("numeric-uid-gid", 'n', .none), ("literal", 'N', .none), ("hide-control-chars", 'q', .none),
   ("show-control-chars", 'λ', .none), ("quote-name", 'Q', .none),
   ("quoting-style", 'π', .needed), ("reverse", 'r', .none), ("recursive", 'R', .none),
   ("size", 's', .none), ("sort", 'ο', .needed), ("tabsize", 'T', .needed),
   ("time", 'θ', .needed), ("time-style", 'ς', .needed), ("width", 'w', .needed),
   ("context", 'Z', .none), ("zero", 'ζ', .none)]

/-- The options that come with `-f`. -/
def withUnsorted (options : List (Char × Octets)) : List (Char × Octets) :=
  options.flatMap fun o => if o.1 = 'f' then [('a', []), ('U', []), ('f', [])] else [o]

/-- The layout that the options ask for, one after the other. -/
def layoutOf (c : Call) (usual : Layout) (options : List (Char × Octets)) : Action Layout :=
  options.foldlM (fun layout (o, w) =>
    match o with
    | 'l' | 'g' | 'n' | 'o' | 'φ' => pure .long
    | 'C' => pure .vertical
    | 'x' => pure .horizontal
    | 'm' => pure .commas
    | '1' => pure (if layout = .long then .long else .single)
    | 'ζ' => pure (if layout = .long then .long else .single)
    | 'f' => pure (if layout = .long then .single else layout)
    | 'ω' => chosen 2 c "--format" layoutWords w
    | _ => pure layout) usual

/-- The order that the options ask for, if they do. -/
def orderOf (c : Call) (options : List (Char × Octets)) : Action (Option Order) :=
  options.foldlM (fun order? (o, w) =>
    match o with
    | 'S' => pure (some .size)
    | 't' => pure (some .time)
    | 'U' => pure (some .none)
    | 'v' => pure (some .version)
    | 'X' => pure (some .ending)
    | 'ο' => some <$> chosen 2 c "--sort" orderWords w
    | _ => pure order?) none

/-- The marks that the options ask for. -/
def markingOf (c : Call) (options : List (Char × Octets)) : Action Marking :=
  options.foldlM (fun marking (o, w) =>
    match o with
    | 'F' => pure .all
    | 'ψ' => do
        match w with
        | [] => return .all
        | w => return if (← chosen 2 c "--classify" whenWords w) = .always then .all else marking
    | 'τ' => pure .kinds
    | 'p' => pure .slash
    | 'μ' => chosen 2 c "--indicator-style" markingWords w
    | _ => pure marking) .none

/-- The way to quote that the options ask for, if they do. -/
def quotingOf (c : Call) (options : List (Char × Octets)) : Action (Option Quoting) :=
  options.foldlM (fun quoting? (o, w) =>
    match o with
    | 'b' => pure (some .escape)
    | 'N' | 'ζ' => pure (some .literal)
    | 'Q' => pure (some .double)
    | 'π' => some <$> chosen 2 c "--quoting-style" Quoting.words w
    | _ => pure quoting?) none

/-- How listings look by the options. -/
def settingsOf (c : Call) (usual : Layout) (usualQuoting? : Option Quoting) (p : Parsed) :
    Action Settings := do
  let options := withUnsorted p.options
  let layout ← layoutOf c usual options
  let order? ← orderOf c options
  let marking ← markingOf c options
  let fromVariable := (c.valueOf? "QUOTING_STYLE").bind fun w =>
    (Quoting.words.find? fun x => text x.1 == w).map (·.2)
  let quoting := (← quotingOf c options).getD (usualQuoting?.getD (fromVariable.getD .literal))
  let time? ← p.options.foldlM (fun t? (o, w) =>
    match o with
    | 'c' => pure (some Time.changed)
    | 'u' => pure (some .accessed)
    | 'θ' => some <$> chosen 2 c "--time" timeWords w
    | _ => pure t?) none
  for w in p.values 'κ' do
    if w ≠ [] then
      let _ ← chosen 2 c "--color" whenWords w
  for w in p.values 'υ' do
    if w ≠ [] then
      let _ ← chosen 2 c "--hyperlink" whenWords w
  let width ← match p.value? 'w', c.valueOf? "COLUMNS" with
    | some t, _ => widthOr c "invalid line width" t
    | none, some t => pure ((Text.toNat? t).getD 80)
    | none, none => pure 80
  let tab ← match p.value? 'T', c.valueOf? "TABSIZE" with
    | some t, _ => widthOr c "invalid tab size" t
    | none, some t => pure ((Text.toNat? t).getD 8)
    | none, none => pure 8
  let styles ← p.options.foldlM (fun (s? : Option (SizeStyle × SizeStyle)) (o, w) =>
    match o with
    | 'h' => pure (some (.powers 1024, .powers 1024))
    | 'σ' => pure (some (.powers 1000, .powers 1000))
    | 'β' => do
        let s ← SizeStyle.ofOption 2 c "--block-size" w
        return some (s, s)
    | _ => pure s?) none
  let asked? := SizeStyle.ofVariables? c ["LS_BLOCK_SIZE", "BLOCK_SIZE"]
  let usualRoom := if p.has 'k' then .blocks 1024 [] else SizeStyle.usual c
  let (roomStyle, sizeStyle) := match styles, asked? with
    | some s, _ => s
    | none, some s => (s, s)
    | none, none => (usualRoom, .bytes)
  let order := order?.getD (if layout ≠ .long && time?.isSome then .time else .name)
  let links := match p.lastOf? ['H', 'L', 'χ'] with
    | some 'H' => Links.operands
    | some 'L' => .always
    | some _ => .operandsToDirectories
    | none =>
        if p.has 'd' || marking = .all || layout = .long then .never else .operandsToDirectories
  let zone := zoneOf c
  let now ← momentNow zone
  let glob (t : Octets) : Glob := Glob.ofText c false t
  let timeFormat ← if layout = .long then timeFormatOf c p else pure ⟨[], []⟩
  return {
    layout, order, marking, quoting, width, tab, links, zone, roomStyle, sizeStyle, timeFormat
    isReverse := p.has 'r'
    directoriesFirst := p.has 'γ'
    time := time?.getD .modified
    now := now.total
    hidesControls := p.lastOf? ['q', 'λ'] = some 'q'
    left := match (options.map (·.1)).reverse.find? fun o => o = 'a' || o = 'A' with
      | some 'a' => .nothing
      | some _ => .dots
      | none => .points
    ignored := (p.values 'I').map glob ++
      (if p.has 'B' then [glob (text "*~"), glob (text ".*~")] else [])
    hidden := (p.values 'ι').map glob
    isDeep := p.has 'R' && !p.has 'd'
    asThemselves := p.has 'd'
    showsNumbers := p.has 'i'
    showsRoom := p.has 's'
    showsContext := p.has 'Z'
    showsOwner := !p.has 'g'
    showsGroup := !p.has 'G' && !p.has 'o'
    showsAuthor := p.has 'α'
    numericOwners := p.has 'n'
    lineEnd := if p.has 'ζ' then Octets.nul else '\n' }

/-- What an operand stands for. -/
def Settings.operand (k : Settings) (fs : FileSystem) (file : Octets) : Except FileError Item :=
  let itself := entryAt fs file
  let followed := fs.entry ⟨file⟩
  let found := match k.links with
    | .never => itself
    | .operands | .always => followed
    | .operandsToDirectories =>
        match followed with
        | .ok (.dir a l) => .ok (.dir a l)
        | _ => itself
  found.map fun e => { itemAt fs { k with links := .never } file file e with }

/-- Show what is in directories. -/
def listing (usual : Layout) (usualQuoting? : Option Quoting) : Utility := fun c =>
  withOptions 2 "abcdfghiklmnopqrstuvw:xABCDFGHI:LNQRST:UXZ1" words c fun p => do
    let k ← settingsOf c usual usualQuoting? p
    let fs ← Action.request .look
    let operands := if p.rest = [] then [['.']] else p.rest
    let (status, found) ← operands.foldlM (fun (status, found) file => do
      match k.operand fs file with
      | .ok x => return (status, found ++ [x])
      | .error e => do
          c.warn (cannot c "cannot access" file e)
          return (2, found)) ((0, []) : Nat × List Item)
    let found := k.sorted c found
    let isShownInside (x : Item) : Bool := !k.asThemselves && isDirectoryEntry x.entry
    let single := found.filter (!isShownInside ·)
    let isHeaded := 1 < operands.length || k.isDeep
    let blocks := (found.filter isShownInside).flatMap fun x =>
      match x.entry with
      | .dir a l => k.blocks c fs isHeaded 1000 x.path a l
      | _ => []
    let parts := (if single = [] then [] else [k.textOf c single]) ++ blocks
    say c (List.intersperse ['\n'] parts).flatten
    return status

end Listings

/-- Show what is in directories, one entry on a line. -/
def ls : Utility := Listings.listing .single none

/-- Show what is in directories, in columns. -/
def dir : Utility := Listings.listing .vertical (some .escape)

/-- Show what is in directories, with all that is known. -/
def vdir : Utility := Listings.listing .long (some .escape)

end SkipAudit.Utility
