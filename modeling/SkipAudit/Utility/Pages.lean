/-
Texts on pages, in columns.

A page has a body of lines with margins above and below, and the body has columns: those of one
text, filled one after the other or line by line, or one column for each of several texts.  The
printing goes character by character, as blanks and separators wait until something stands behind
them.
-/
import SkipAudit.Number.Natural
import SkipAudit.Text.Quoting

namespace SkipAudit

namespace Pages

/-- How pages look. -/
structure Layout where
  /-- The lines between the margins. -/
  bodyLines : Nat
  /-- There are margins. -/
  hasMargins : Bool
  isDouble : Bool
  columns : Nat
  columnWidth : Nat
  /-- Each column has a text of its own. -/
  isParallel : Bool
  /-- The columns are filled one after the other. -/
  isStoring : Bool
  truncates : Bool
  /-- Tabs that are read become blanks, and blanks that are written become tabs. -/
  expandsTabs : Bool
  makesTabs : Bool
  tabIn : Char
  tabInWidth : Nat
  tabOut : Char
  tabOutWidth : Nat
  separator : Octets
  hasSeparator : Bool
  isNumbered : Bool
  numberDigits : Nat
  numberWidth : Nat
  numberSeparator : Char
  /-- The blanks in front of every line. -/
  indent : Nat
  feedsForms : Bool
  keepsFeeds : Bool
  /-- Characters that cannot be seen are shown in base eight, or with a caret. -/
  escapes : Bool
  carets : Bool
  lastPage? : Option Nat
  /-- The parts of the head of a page. -/
  date : Octets
  title : Octets
  headWidth : Nat

/-- How a text stands. -/
inductive Status where
  | ready
  /-- A form feed was found in a text whose columns are filled one after the other. -/
  | foundFeed
  /-- It goes on with the next page. -/
  | waits
  | ended
deriving DecidableEq

/-- A column. -/
structure Column where
  status : Status
  /-- Which text it shows. -/
  source : Nat
  linesLeft : Nat
  stored : Nat
  currentLine : Nat
  /-- The last page ended with the end of the body. -/
  isFull : Bool
  hasNumbers : Bool
  /-- Where it begins; zero means anywhere. -/
  place : Int
  /-- Its characters are kept until the page is whole. -/
  keeps : Bool

/-- A line that is kept, and how wide it is. -/
structure Kept where
  text : Octets
  width : Int

/-- The state of the printing. -/
structure Press where
  columns : List Column
  texts : List Octets
  /-- What is written, the last character first. -/
  out : Octets
  /-- The line that is being kept, the last character first, and the lines before. -/
  keeping : Octets
  kept : List Kept
  outColumn : Int
  inColumn : Int
  blanks : Int
  separators : Nat
  padding : Int
  lineNumber : Int
  page : Nat
  textsReady : Nat
  wantsHead : Bool
  wantsFeed : Bool
  padsDown : Bool
  alignsEmpty : Bool
  isEmptyLine : Bool
  onlyFeed : Bool

/-- A step of the printing. -/
abbrev Printing := ReaderT Layout (StateM Press)

/-! ## Characters -/

/-- Change the column with a number. -/
def onColumn (j : Nat) (f : Column → Column) : Printing Unit :=
  modify fun s => { s with columns := s.columns.modify j f }

/-- The column with a number. -/
def column (j : Nat) : Printing Column := do
  return ((← get).columns[j]?).getD ⟨.ended, 0, 0, 0, 0, false, false, 0, false⟩

/-- Change every column. -/
def onColumns (f : Column → Column) : Printing Unit :=
  modify fun s => { s with columns := s.columns.map f }

/-- Take a character of the text of a column. -/
def take (j : Nat) : Printing (Option Char) := do
  let i := (← column j).source
  match (← get).texts[i]? with
  | some (c :: rest) => do
      modify fun s => { s with texts := s.texts.set i rest }
      return some c
  | _ => return none

/-- Skip a character of the text of a column, if it comes next. -/
def skip (j : Nat) (c : Char) : Printing Unit := do
  let i := (← column j).source
  match (← get).texts[i]? with
  | some (d :: rest) => if d = c then modify fun s => { s with texts := s.texts.set i rest }
  | _ => return

/-- Write characters as they are. -/
def put (t : Octets) : Printing Unit := modify fun s => { s with out := t.reverse ++ s.out }

/-- Tabs, and blanks behind them, from one column to another; the number bounds the tabs. -/
def whiteSpace (tab : Char) (width : Int) : Nat → Int → Int → Octets
  | 0, here, goal => List.replicate (goal - here).toNat ' '
  | n + 1, here, goal =>
      let next := here + (width - here % width)
      if 1 < goal - here && next ≤ goal then tab :: whiteSpace tab width n next goal
      else List.replicate (goal - here).toNat ' '

/-- Write the blanks that wait. -/
def putBlanks : Printing Unit := do
  let k ← read
  let s ← get
  let goal := s.outColumn + s.blanks
  put (whiteSpace k.tabOut (max k.tabOutWidth 1) s.blanks.toNat s.outColumn goal)
  modify fun s => { s with outColumn := goal, blanks := 0 }

/-- The character can be seen. -/
def isVisible (c : Char) : Bool := 32 ≤ c.toNat && c.toNat < 127

/-- Write a character of a text. -/
def putChar (c : Char) : Printing Unit := do
  let k ← read
  if k.makesTabs then
    if c = ' ' then modify fun s => { s with blanks := s.blanks + 1 }
    else
      if 0 < (← get).blanks then putBlanks
      let step : Int := if isVisible c then 1 else if c = '\x08' then -1 else 0
      modify fun s => { s with outColumn := s.outColumn + step }
      put [c]
  else put [c]

/-- Write or keep a character for a column. -/
def showChar (keeps : Bool) (c : Char) : Printing Unit :=
  if keeps then modify fun s => { s with keeping := c :: s.keeping } else putChar c

/-- Go to a column with blanks. -/
def padTo (place : Int) : Printing Unit := do
  let k ← read
  let s ← get
  if k.makesTabs then modify fun s => { s with blanks := place - s.outColumn }
  else
    put (List.replicate (place - s.outColumn).toNat ' ')
    modify fun s => { s with outColumn := place }

/-- Go to where a column begins, unless that was done or it may begin anywhere. -/
def padPending : Printing Unit := do
  let k ← read
  let s ← get
  if (k.separator.length : Int) < s.padding then
    padTo (s.padding - k.separator.length)
    modify fun s => { s with padding := 0 }

/-- Write the separators that wait. -/
def putSeparators : Printing Unit := do
  let k ← read
  let n := (← get).separators
  if n = 0 then
    if 0 < (← get).blanks then putBlanks
  else
    for i in List.range n do
      if i = 0 then
        for c in k.separator do
          if c = ' ' then modify fun s => { s with blanks := s.blanks + 1 }
          else
            if 0 < (← get).blanks then putBlanks
            put [c]
            modify fun s => { s with outColumn := s.outColumn + 1 }
      if 0 < (← get).blanks then putBlanks
    modify fun s => { s with separators := 0 }

/-- Number a line of a column. -/
def putNumber (keeps : Bool) : Printing Unit := do
  let k ← read
  let s ← get
  let digits : Octets := (toString s.lineNumber).toList
  let digits := List.replicate (k.numberDigits - digits.length) ' ' ++ digits
  modify fun s => { s with lineNumber := s.lineNumber + 1 }
  for c in digits.drop (digits.length - k.numberDigits) do
    showChar keeps c
  if 1 < k.columns then
    if k.numberSeparator = '\t' then
      for _ in List.range (k.numberWidth - k.numberDigits) do
        showChar keeps ' '
    else showChar keeps k.numberSeparator
  else
    showChar keeps k.numberSeparator
    if k.numberSeparator = '\t' then
      let width : Int := max k.tabOutWidth 1
      modify fun s => { s with outColumn := s.outColumn + (width - s.outColumn % width) }
  if k.truncates && !k.isParallel then
    modify fun s => { s with inColumn := s.inColumn + k.numberWidth }

/-- Go to where a column begins, although nothing stands there. -/
def alignColumn (j : Nat) : Printing Unit := do
  let k ← read
  let p ← column j
  modify fun s => { s with padding := p.place }
  padPending
  if k.hasSeparator then putSeparators
  if p.hasNumbers then putNumber p.keeps

/-- A character as it is shown, and how far it leads. -/
def clump (k : Layout) (inColumn : Int) (c : Char) : Octets × Int :=
  let octal := '\\' :: Quoting.octal c
  if c = k.tabIn || c = '\t' then
    let width : Int := if c = k.tabIn then max k.tabInWidth 1 else 8
    let width := width - inColumn % width
    (if k.expandsTabs then List.replicate width.toNat ' ' else [c], width)
  else if isVisible c then ([c], 1)
  else if k.escapes then (octal, 4)
  else if k.carets then
    if c.toNat < 128 then (['^', Char.ofNat (c.toNat ^^^ 64)], 2) else (octal, 4)
  else if c = '\x08' then ([c], -1)
  else ([c], 0)

/-- Take note of a character that is read, and get what is shown for it. -/
def takeNote (c : Char) : Printing Octets := do
  let k ← read
  let here := (← get).inColumn
  let (t, width) := clump k here c
  if width < 0 && here = 0 then return []
  else
    modify fun s => { s with inColumn := if width < 0 && here ≤ -width then 0 else here + width }
    return t

/-! ## Lines -/

/-- Write the head of a page. -/
def putHead : Printing Unit := do
  let k ← read
  modify fun s => { s with outColumn := 0 }
  padTo k.indent
  putBlanks
  let number := text "Page " ++ Text.ofNat (← get).page
  let width := k.headWidth - number.length
  let gap (n : Nat) : Octets := List.replicate (max n 1) ' '
  put (text "\n\n" ++ List.replicate k.indent ' ' ++ k.date ++ gap (width / 2) ++ k.title ++
    gap (width - width / 2) ++ number ++ text "\n\n\n")
  modify fun s => { s with wantsHead := false, outColumn := 0 }

/-- The text of a column goes on with the next page. -/
def holdText (j : Nat) : Printing Unit := do
  let k ← read
  if k.isParallel then onColumn j ({ · with status := .waits })
  else onColumns ({ · with status := if k.isStoring then .foundFeed else .waits })
  onColumn j ({ · with linesLeft := 0 })
  modify fun s => { s with textsReady := s.textsReady - 1 }

/-- The text of a column has ended. -/
def endText (j : Nat) : Printing Unit := do
  let k ← read
  if (← column j).status ≠ .ended then
    if k.isParallel then onColumn j ({ · with status := .ended, linesLeft := 0 })
    else onColumns fun p =>
      { p with status := .ended, linesLeft := if p.stored = 0 then 0 else p.linesLeft }
    modify fun s => { s with textsReady := s.textsReady - 1 }

/-- A form feed was read behind something else. -/
def meetFeed (j : Nat) : Printing Unit := do
  skip j '\n'
  if (← read).keepsFeeds then modify fun s => { s with wantsFeed := true }
  holdText j

/-- Read what is left of a line; the number bounds how much. -/
def skipLine (j : Nat) : Nat → Printing Unit
  | 0 => return
  | n + 1 => do
      match ← take j with
      | some '\n' => return
      | some '\x0c' => meetFeed j
      | some _ => skipLine j n
      | none => endText j

/-- More characters than there are. -/
def bound : Printing Nat := do
  return (← get).texts.foldl (fun n t => n + t.length) 1

/-- Whether what is read does not fit into the column any more; then its last character is
forgotten. -/
def overflows (before : Int) : Printing Bool := do
  let k ← read
  if k.truncates && (k.columnWidth : Int) < (← get).inColumn then
    modify fun s => { s with inColumn := before }
    return true
  else return false

/-- Show a line of a column from its second character on; the result is whether it was read to
its end. -/
def readOn (j : Nat) (keeps : Bool) : Nat → Printing Bool
  | 0 => return true
  | n + 1 => do
      match ← take j with
      | some '\n' => return true
      | some '\x0c' => do
          meetFeed j
          return true
      | none => do
          endText j
          return true
      | some c => do
          let before := (← get).inColumn
          let t ← takeNote c
          if ← overflows before then return false
          for x in t do
            showChar keeps x
          readOn j keeps n

/-- Prepare for a line that is shown at once. -/
def beginLine (j : Nat) : Printing Unit := do
  let k ← read
  modify fun s => { s with padsDown := true }
  if (← get).wantsHead && !k.isStoring then putHead
  if k.isParallel && (← get).alignsEmpty then
    let n := (← get).separators
    modify fun s => { s with separators := 0 }
    for i in List.range n do
      alignColumn i
      modify fun s => { s with separators := s.separators + 1 }
    let p ← column j
    modify fun s => { s with
      padding := p.place, blanks := if k.truncates then k.columnWidth else 0, alignsEmpty := false }
  padPending
  if k.hasSeparator then putSeparators

/-- Show a line of a column as it is read; the result is whether it was read to its end. -/
def readLine (j : Nat) : Printing Bool := do
  let k ← read
  let before := (← get).inColumn
  let p ← column j
  let c? ← match ← take j with
    | some '\x0c' => do
        if p.isFull then
          match ← take j with
          | some '\n' => take j
          | c? => pure c?
        else pure (some '\x0c')
    | c? => pure c?
  onColumn j ({ · with isFull := false })
  match c? with
  | some '\x0c' => do
      skip j '\n'
      modify fun s => { s with onlyFeed := true }
      if (← get).wantsHead && !k.isStoring then
        modify fun s => { s with padsDown := true }
        putHead
      else if k.keepsFeeds then modify fun s => { s with wantsFeed := true }
      holdText j
      return true
  | none => do
      endText j
      return true
  | some c => do
      let t ← if c = '\n' then pure [] else takeNote c
      if ← overflows before then return false
      if !p.keeps then beginLine j
      if p.hasNumbers then putNumber p.keeps
      modify fun s => { s with isEmptyLine := false }
      if c = '\n' then return true
      for x in t do
        showChar p.keeps x
      readOn j p.keeps (← bound)

/-- Show a line of a column that was kept. -/
def showKept (j : Nat) : Printing Bool := do
  let k ← read
  let p ← column j
  let line := ((← get).kept[p.currentLine]?).getD ⟨[], 0⟩
  onColumn j ({ · with currentLine := p.currentLine + 1 })
  modify fun s => { s with padsDown := true }
  if (← get).wantsHead then putHead
  if p.status = .foundFeed then onColumns ({ · with status := .waits })
  if p.status = .foundFeed && (← column 0).linesLeft = 0 then
    if !k.hasMargins then modify fun s => { s with padsDown := false }
    return true
  else
    padPending
    if k.hasSeparator then putSeparators
    for c in line.text do
      putChar c
    if (← get).blanks = 0 then
      let size : Int := k.separator.length
      let place := p.place + line.width
      modify fun s => { s with
        outColumn := if p.place - size = k.indent then place - size else place }
    return true

/-! ## Pages -/

/-- Columns that have something for this page. -/
def readyColumns : Printing Nat := do
  let k ← read
  return (← get).columns.countP fun p =>
    p.status = .ready || p.status = .foundFeed || (k.isStoring && 0 < p.stored && 0 < p.linesLeft)

/-- Keep the lines of one page. -/
def storeColumns : Printing Unit := do
  let k ← read
  modify fun s => { s with kept := [], keeping := [] }
  onColumns ({ · with stored := 0 })
  for j in List.range k.columns do
    if 0 < (← get).textsReady then
      for _ in List.range k.bodyLines do
        if 0 < (← get).textsReady && (← column j).status = .ready then
          modify fun s => { s with inColumn := 0 }
          if !(← readLine j) then skipLine j (← bound)
          let s ← get
          if (← column j).status = .ready || s.keeping ≠ [] then
            onColumn j fun p => { p with stored := p.stored + 1 }
            modify fun s => { s with
              kept := ⟨s.keeping.reverse, s.inColumn⟩ :: s.kept, keeping := [] }
  let total := (← get).kept.length
  modify fun s => { s with kept := s.kept.reverse }
  let _ ← (List.range k.columns).foldlM (fun first j => do
    let lines := total / k.columns + (if j < total % k.columns then 1 else 0)
    onColumn j ({ · with stored := lines, currentLine := first })
    return first + lines) 0

/-- Prepare the columns for a page. -/
def beginPage : Printing Unit := do
  let k ← read
  if k.isStoring then
    storeColumns
    onColumns fun p => { p with linesLeft := p.stored }
  else onColumns fun p => { p with linesLeft := if p.status = .ready then k.bodyLines else 0 }

/-- Show the part of a line that stands in a column; the result is whether the page is over. -/
def showColumn (j : Nat) : Printing Bool := do
  let k ← read
  modify fun s => { s with inColumn := 0 }
  let p ← column j
  if 0 < p.linesLeft || p.status = .foundFeed then
    modify fun s => { s with onlyFeed := false, padding := p.place }
    let isWhole ← if k.isStoring then showKept j else readLine j
    if !isWhole then skipLine j (← bound)
    onColumn j fun p => { p with linesLeft := p.linesLeft - 1 }
    if (← column j).linesLeft = 0 && (← readyColumns) = 0 then return true
    let p ← column j
    if k.isParallel && p.status ≠ .ready then
      let s ← get
      if s.isEmptyLine then modify fun s => { s with alignsEmpty := true }
      else if p.status = .ended || (p.status = .waits && s.onlyFeed) then alignColumn j
  else if k.isParallel then
    if (← get).isEmptyLine then modify fun s => { s with alignsEmpty := true } else alignColumn j
  if k.hasSeparator then modify fun s => { s with separators := s.separators + 1 }
  return false

/-- Show the columns of a line up to the end of the page. -/
def showColumns : List Nat → Printing Unit
  | [] => return
  | j :: js => do
      if !(← showColumn j) then showColumns js

/-- Show the lines of a page; the result is how many lines are left, and whether anything was
shown.  The number bounds the lines. -/
def showLines (wasPadded : Bool) (left : Nat) : Nat → Printing (Nat × Bool)
  | 0 => return (left, wasPadded)
  | n + 1 => do
      let k ← read
      if left = 0 || (← readyColumns) = 0 then return (left, wasPadded)
      else
        modify fun s => { s with
          outColumn := 0, blanks := 0, separators := 0, padsDown := false, alignsEmpty := false
          isEmptyLine := true }
        showColumns (List.range k.columns)
        let pads := (← get).padsDown
        if pads then put ['\n']
        let left := if pads then left - 1 else left
        let wasPadded := wasPadded || pads
        if (← readyColumns) = 0 && !k.hasMargins then return (left, wasPadded)
        else if k.isDouble && wasPadded then
          put ['\n']
          showLines wasPadded (left - 1) n
        else showLines wasPadded left n

/-- How many lines stand below the body. -/
def footerLines : Nat := 5

/-- Let the texts that wait go on. -/
def wake : Printing Unit := do
  let k ← read
  let waiting := (← get).columns.countP (·.status = .waits)
  onColumns fun p => { p with status := if p.status = .waits then .ready else p.status }
  modify fun s => { s with textsReady := s.textsReady + waiting }
  if k.isStoring then
    let hasEnded := (← column 0).status = .ended
    modify fun s => { s with textsReady := if hasEnded then 0 else 1 }

/-- Show a page; the result is whether there may be another one. -/
def showPage : Printing Bool := do
  let k ← read
  beginPage
  if (← readyColumns) = 0 then return false
  else
    if k.hasMargins then modify fun s => { s with wantsHead := true }
    modify fun s => { s with padsDown := false }
    let total := if k.isDouble then k.bodyLines * 2 else k.bodyLines
    let (left, pads) ← showLines false total (2 * total + 2 + (← bound))
    if left = 0 then
      onColumns fun p => { p with isFull := p.isFull || p.status = .ready }
    modify fun s => { s with padsDown := pads }
    if pads && k.hasMargins then
      put (if k.feedsForms then ['\x0c'] else List.replicate (left + footerLines) '\n')
    else if k.keepsFeeds && (← get).wantsFeed then
      put ['\x0c']
      modify fun s => { s with wantsFeed := false }
    let page := (← get).page + 1
    modify fun s => { s with page }
    if k.lastPage?.any (· < page) then return false
    else
      wake
      return true

/-- Show all pages; the number bounds how many. -/
def showPages : Nat → Printing Unit
  | 0 => return
  | n + 1 => do
      if ← showPage then showPages n

/-! ## Pages that are left out -/

/-- Pass over a line of a column; the number bounds how long it is. -/
def passLine (j : Nat) (isLast : Bool) (c? : Option Char) : Nat → Printing Unit
  | 0 => return
  | n + 1 => do
      let k ← read
      match c? with
      | some '\n' => return
      | some '\x0c' => do
          if isLast then
            if k.isParallel then onColumn j ({ · with isFull := false })
            else onColumns ({ · with isFull := false })
          skip j '\n'
          holdText j
      | none => endText j
      | some _ => passLine j isLast (← take j) n

/-- Pass over a line of a column from its beginning; `counts`: it is numbered all the same. -/
def skipRead (j : Nat) (isLast counts : Bool) : Printing Unit := do
  let k ← read
  let p ← column j
  let c? ← match ← take j with
    | some '\x0c' => do
        if p.isFull then
          match ← take j with
          | some '\n' => take j
          | c? => pure c?
        else pure (some '\x0c')
    | c? => pure c?
  onColumn j ({ · with isFull := isLast })
  passLine j isLast c? ((← bound) + 1)
  if counts && (!k.isParallel || j = 0) && c? ≠ some '\x0c' then
    modify fun s => { s with lineNumber := s.lineNumber + 1 }

/-- Pass over pages; the result is the page at which the texts ended too early. -/
def skipPages (counts : Bool) (n : Nat) : Nat → Printing (Option Nat)
  | 0 => return none
  | more + 1 => do
      let k ← read
      for i in List.range (max k.bodyLines 1) do
        for j in List.range k.columns do
          if (← column j).status = .ready then skipRead j (i + 1 = max k.bodyLines 1) counts
      if k.isStoring then
        onColumns fun p => { p with status := if p.status = .ended then .ended else .waits }
      wake
      if (← get).textsReady < 1 then return some n
      else skipPages counts (n + 1) more

/-! ## From the beginning -/

/-- The columns at the beginning. -/
def columnsOf (k : Layout) : List Column :=
  let size : Int := k.separator.length
  let width : Int := k.columnWidth
  let first : Int := k.indent
  (List.range k.columns).map fun (j : Nat) =>
    let place : Int :=
      if j = 0 then first + size
      else if !k.truncates then 0
      else
        let behindFirst :=
          first + width + (if k.isParallel && k.isNumbered then k.numberWidth else 0)
        behindFirst + size + ((j : Int) - 1) * (width + size)
    ⟨.ready, if k.isParallel then j else 0, 0, 0, 0, false,
      k.isNumbered && (!k.isParallel || j = 0), place, k.isStoring⟩

/-- What is shown for some texts, and the page at which they ended although more were to be left
out. -/
def pagesOf (k : Layout) (firstPage : Nat) (lineNumber : Int) (counts : Bool)
    (texts : List Octets) : Octets × Option Nat :=
  let start : Press :=
    { columns := columnsOf k, texts, out := [], keeping := [], kept := [], outColumn := 0
      inColumn := 0, blanks := 0, separators := 0, padding := 0, lineNumber, page := firstPage
      textsReady := texts.length, wantsHead := false, wantsFeed := false, padsDown := false
      alignsEmpty := false, isEmptyLine := true, onlyFeed := false }
  let size := Natural.total (texts.map (·.length))
  let run : Printing (Option Nat) := do
    let missing? ← skipPages counts 1 (min (firstPage - 1) (size + 1))
    if missing?.isNone && 0 < (← get).textsReady then showPages (size + 2)
    return missing?
  let (missing?, s) := (run.run k).run start
  (s.out.reverse, missing?)

end Pages

end SkipAudit
