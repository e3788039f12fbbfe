/-
The program that puts texts on pages.
-/
import SkipAudit.Calendar.Writing
import SkipAudit.Utility.Dates
import SkipAudit.Utility.Deeds
import SkipAudit.Utility.Pages

namespace SkipAudit.Utility

namespace Paging

/-- What the options say. -/
structure Wishes where
  columns? : Option Nat
  isAcross : Bool
  isParallel : Bool
  isDouble : Bool
  carets : Bool
  escapes : Bool
  format? : Option Octets
  expandsTabs : Bool
  tabIn : Char
  tabInWidth : Nat
  makesTabs : Bool
  tabOut : Char
  tabOutWidth : Nat
  feedsForms : Bool
  title? : Option Octets
  joins : Bool
  pageLines : Nat
  isNumbered : Bool
  numberSeparator : Char
  numberDigits : Nat
  firstNumber? : Option Int
  indent : Nat
  isQuiet : Bool
  /-- An old option for separators or for the width stands, and was the last of its kind. -/
  hasOld : Bool
  hasOldSeparator : Bool
  hasOldWidth : Bool
  separator : Octets
  hasSeparator : Bool
  hasMargins : Bool
  keepsFeeds : Bool
  truncates : Bool
  width : Nat
  firstPage? : Option Nat
  lastPage? : Option Nat
  /-- The digits of an old option for columns. -/
  digits : Octets

/-- What holds if nothing is said. -/
def Wishes.usual : Wishes :=
  { columns? := none, isAcross := false, isParallel := false, isDouble := false, carets := false
    escapes := false, format? := none, expandsTabs := false, tabIn := '\t', tabInWidth := 8
    makesTabs := false, tabOut := '\t', tabOutWidth := 8, feedsForms := false, title? := none
    joins := false, pageLines := 66, isNumbered := false, numberSeparator := '\t'
    numberDigits := 5, firstNumber? := none, indent := 0, isQuiet := false, hasOld := false
    hasOldSeparator := false, hasOldWidth := false, separator := [], hasSeparator := false
    hasMargins := true, keepsFeeds := false, truncates := false, width := 72, firstPage? := none
    lastPage? := none, digits := [] }

/-- The greatest number that an option takes. -/
def greatest : Nat := Natural.twoTo 31 - 1

/-- Read the number behind an option. -/
def number (c : Call) (what : String) (least : Int) (t : Octets) : Action Int := do
  let refuse {α : Type} (reason : Octets) : Action α :=
    c.die 1 (text what ++ text ": " ++ c.quote t ++ reason)
  let tooLarge := text ": Value too large for defined data type"
  let u := t.dropWhile Signed64.isSpace
  let (isNegative, u) := match u with
    | '-' :: u => (true, u)
    | '+' :: u => (false, u)
    | u => (false, u)
  if u = [] || !u.all Char.isDigit then refuse []
  else
    let n : Nat := (Text.toNat? u).getD 0
    let n : Int := if isNegative then -(n : Int) else n
    if n < least then
      refuse (if n < -(greatest : Int) - 1 then tooLarge
        else text ": Numerical result out of range")
    else if (greatest : Int) < n then refuse tooLarge
    else return n

/-- Read a character and a number behind an option, each of which may be missing. -/
def charAndNumber (c : Call) (letter : Char) (t : Octets) (usual : Char × Nat) :
    Action (Char × Nat) := do
  let (x, rest) := match t with
    | x :: rest => if x.isDigit then (usual.1, x :: rest) else (x, rest)
    | [] => (usual.1, [])
  if rest = [] then return (x, usual.2)
  else
    let refuse {α : Type} (reason : String) : Action α :=
      c.misuse 1 (text "'-" ++ letter ::
        text "' extra characters or invalid number in the argument: " ++ c.quote rest ++
        text reason)
    match count "" rest with
    | .ok n =>
        if n = 0 then refuse ""
        else if greatest < n then refuse ": Value too large for defined data type"
        else return (x, n)
    | .error .tooLarge => refuse ": Value too large for defined data type"
    | .error _ => refuse ""

/-- Read a range of pages; nothing if it is none. -/
def pageRange? (t : Octets) : Option (Nat × Option Nat) := do
  let digits := t.takeWhile Char.isDigit
  let first ← Text.toNat? digits
  if first = 0 then none
  match t.drop digits.length with
  | [] => return (first, none)
  | ':' :: rest => do
      let last ← Text.toNat? rest
      if last < first then none else return (first, some last)
  | _ => none

/-- The wishes after one more option. -/
def Wishes.after (c : Call) (w : Wishes) : Char × Octets → Action Wishes
  | ('a', _) => return { w with isAcross := true }
  | ('c', _) => return { w with carets := true }
  | ('d', _) => return { w with isDouble := true }
  | ('D', t) => return { w with format? := some t }
  | ('e', t) => do
      let (tabIn, tabInWidth) ← charAndNumber c 'e' t (w.tabIn, w.tabInWidth)
      return { w with expandsTabs := true, tabIn, tabInWidth }
  | ('h', t) => return { w with title? := some t }
  | ('i', t) => do
      let (tabOut, tabOutWidth) ← charAndNumber c 'i' t (w.tabOut, w.tabOutWidth)
      return { w with makesTabs := true, tabOut, tabOutWidth }
  | ('J', _) => return { w with joins := true }
  | ('l', t) => do
      return { w with
        pageLines := (← number c "'-l PAGE_LENGTH' invalid number of lines" 1 t).toNat }
  | ('m', _) => return { w with isParallel := true }
  | ('n', t) => do
      let (numberSeparator, numberDigits) ←
        charAndNumber c 'n' t (w.numberSeparator, w.numberDigits)
      return { w with isNumbered := true, numberSeparator, numberDigits }
  | ('N', t) => do
      return { w with
        firstNumber? := some (← number c "'-N NUMBER' invalid starting line number"
          (-(greatest : Int) - 1) t) }
  | ('o', t) => do
      return { w with indent := (← number c "'-o MARGIN' invalid line offset" 0 t).toNat }
  | ('r', _) => return { w with isQuiet := true }
  | ('s', t) =>
      let w := { w with hasOld := true, hasOldSeparator := true }
      return if w.hasSeparator || t = [] then w else { w with separator := t }
  | ('S', t) =>
      return { w with hasOldSeparator := false, hasSeparator := true, separator := t }
  | ('t', _) => return { w with hasMargins := false, keepsFeeds := true }
  | ('T', _) => return { w with hasMargins := false, keepsFeeds := false }
  | ('v', _) => return { w with escapes := true }
  | ('w', t) => do
      let width := (← number c "'-w PAGE_WIDTH' invalid number of characters" 1 t).toNat
      let w := { w with hasOld := true, hasOldWidth := true }
      return if w.truncates then w else { w with width }
  | ('W', t) => do
      let width := (← number c "'-W PAGE_WIDTH' invalid number of characters" 1 t).toNat
      return { w with hasOldWidth := false, truncates := true, width }
  | ('κ', t) => do
      let n := (← number c "invalid number of columns" 1 t).toNat
      return { w with columns? := some n, digits := [] }
  | ('π', t) =>
      match pageRange? t with
      | some (first, last?) => return { w with firstPage? := some first, lastPage? := last? }
      | none => c.die 1 (text "invalid page range " ++ c.quote t)
  | (letter, _) =>
      if letter = 'f' || letter = 'F' then return { w with feedsForms := true } else return w

/-- The wishes after all options; digits that stand next to each other are one number. -/
def Wishes.ofOptions (c : Call) (options : List (Char × Octets)) : Action Wishes := do
  let (w, _) ← options.foldlM (fun ((w, wasDigit) : Wishes × Bool) o => do
    if o.1.isDigit then
      return ({ w with digits := (if wasDigit then w.digits else []) ++ [o.1] }, true)
    else return (← w.after c o, false)) (.usual, false)
  if w.digits = [] then return w
  else
    return { w with
      columns? := some (← number c "invalid number of columns" 1 w.digits).toNat }

/-- What the old options for separators and for the width mean beside the others. -/
def Wishes.settled (w : Wishes) : Wishes :=
  let hasColumns := w.isParallel || w.columns?.isSome
  if !w.hasOld then w
  else if w.hasOldWidth then
    if hasColumns then
      { w with truncates := true, hasSeparator := w.hasSeparator || w.hasOldSeparator }
    else { w with joins := true }
  else if !w.hasSeparator && w.hasOldSeparator && hasColumns then
    if w.truncates then { w with hasSeparator := true }
    else { w with joins := true, hasSeparator := w.separator ≠ [] }
  else w

/-- How many lines the margins of a page have. -/
def marginLines : Nat := 10

/-- How the pages look for some number of texts; none if they are too narrow. -/
def Wishes.layout? (w : Wishes) (texts : Nat) : Option Pages.Layout := do
  let isParallel := w.isParallel && texts ≠ 0
  let columns := if isParallel then texts else w.columns?.getD 1
  let isStoring := !w.isAcross && !w.isParallel && 1 < columns
  let isNarrow := w.pageLines ≤ marginLines
  let hasMargins := w.hasMargins && !isNarrow
  let bodyLines := if hasMargins then w.pageLines - marginLines else w.pageLines
  let isMany : Bool := 1 < columns
  let tab : Octets := ['\t']
  let separator := if !isMany then w.separator
    else if !w.hasSeparator then (if w.joins then tab else [' '])
    else if !w.joins && w.separator = tab then [' ']
    else w.separator
  let numberWidth := if w.numberSeparator = '\t' then
      w.numberDigits + (8 - w.numberDigits % 8)
    else w.numberDigits + 1
  let used := (if w.isNumbered && isParallel then numberWidth else 0) +
    (columns - 1) * separator.length
  let columnWidth := (w.width - used) / columns
  if columnWidth = 0 then none
  return {
    bodyLines := if w.isDouble then bodyLines / 2 else bodyLines
    hasMargins, isDouble := w.isDouble, columns, columnWidth, isParallel, isStoring
    truncates := (w.truncates || isMany) && !w.joins
    expandsTabs := w.expandsTabs || (isMany && separator ≠ tab)
    makesTabs := w.makesTabs || isMany
    tabIn := w.tabIn, tabInWidth := w.tabInWidth, tabOut := w.tabOut
    tabOutWidth := w.tabOutWidth, separator, hasSeparator := w.hasSeparator || isMany
    isNumbered := w.isNumbered, numberDigits := w.numberDigits, numberWidth
    numberSeparator := w.numberSeparator, indent := w.indent, feedsForms := w.feedsForms
    keepsFeeds := w.keepsFeeds || isNarrow, escapes := w.escapes, carets := w.carets
    lastPage? := w.lastPage?, date := [], title := [], headWidth := 0 }

/-- A text, its name on the page, and when it was changed, if it is a file. -/
structure Source where
  content : Octets
  title : Octets
  modified? : Option Int

/-- Read a text; nothing if it cannot be opened. -/
def source? (c : Call) (isQuiet : Bool) (file : Octets) : Action (Option Source) := do
  match ← openInput file with
  | .error e =>
      if !isQuiet then c.warn (because c file e)
      return none
  | .ok fd =>
      match ← Action.readAll fd with
      | .error e =>
          c.die 1 (because c (if fd = 0 then text "standard input" else file) e)
      | .ok t => do
          closeInput fd
          if fd = 0 then return some ⟨t, [], none⟩
          else
            let fs ← Action.request .look
            match fs.entry ⟨file⟩ with
            | .ok e => return some ⟨t, file, some e.attributes.modified⟩
            | .error _ => return some ⟨t, file, none⟩

/-- Show some texts together. -/
def showTogether (c : Call) (w : Wishes) (count : Nat) (sources : List Source) : Action Unit := do
  match w.layout? count with
  | none => c.die 1 (text "page width too narrow")
  | some k =>
      let first := match sources with
        | [s] => s
        | _ => ⟨[], [], none⟩
      let zone := zoneOf c
      let moment ← match first.modified? with
        | some n => if w.isParallel then momentNow zone else pure (.ofNanoseconds zone n)
        | none => momentNow zone
      let date := moment.write (w.format?.getD (text (
        if (c.valueOf? "POSIXLY_CORRECT").isSome then "%b %e %H:%M %Y" else "%Y-%m-%d %H:%M")))
      let title := w.title?.getD (if w.isParallel then [] else first.title)
      let k := { k with
        date, title, headWidth := w.width - c.encoding.columns date - c.encoding.columns title
        columns := if k.isParallel then sources.length else k.columns }
      let firstPage := w.firstPage?.getD 1
      let (out, missing?) := Pages.pagesOf k firstPage (w.firstNumber?.getD 1)
        w.firstNumber?.isNone (sources.map (·.content))
      say c out
      match missing? with
      | some n =>
          c.warn (text "starting page number " ++ Text.ofNat firstPage ++
            text " exceeds page count " ++ Text.ofNat n)
      | none => return

end Paging

open Paging in
/-- Put texts on pages. -/
def pr : Utility := fun c =>
  withOptions 1 "0123456789D:FJN:S::TW:abcde::fh:i::l:mn::o:rs::tvw:"
    [("pages", 'π', .needed), ("columns", 'κ', .needed), ("across", 'a', .none),
     ("show-control-chars", 'c', .none), ("double-space", 'd', .none),
     ("date-format", 'D', .needed), ("expand-tabs", 'e', .optional), ("form-feed", 'f', .none),
     ("header", 'h', .needed), ("output-tabs", 'i', .optional), ("join-lines", 'J', .none),
     ("length", 'l', .needed), ("merge", 'm', .none), ("number-lines", 'n', .optional),
     ("first-line-number", 'N', .needed), ("indent", 'o', .needed),
     ("no-file-warnings", 'r', .none), ("separator", 's', .optional),
     ("sep-string", 'S', .optional), ("omit-header", 't', .none),
     ("omit-pagination", 'T', .none), ("show-nonprinting", 'v', .none), ("width", 'w', .needed),
     ("page-width", 'W', .needed)] c fun p => do
    let w ← Wishes.ofOptions c p.options
    let (w, files) := p.rest.foldl (fun ((w, files) : Wishes × List Octets) a =>
      match a with
      | '+' :: t =>
          match w.firstPage?, pageRange? t with
          | none, some (first, last?) =>
              ({ w with firstPage? := some first, lastPage? := last? }, files)
          | _, _ => (w, files ++ [a])
      | _ => (w, files ++ [a])) (w, [])
    if w.isParallel && w.columns?.isSome then
      c.die 1 (text "cannot specify number of columns when printing in parallel")
    if w.isParallel && w.isAcross then
      c.die 1 (text "cannot specify both printing across and printing in parallel")
    let w := w.settled
    if files = [] then
      match ← source? c w.isQuiet ['-'] with
      | some s => do
          showTogether c { w with isParallel := false } 0 [s]
          return 0
      | none => return 1
    else if w.isParallel then
      let sources ← files.mapM (source? c w.isQuiet)
      let found := sources.filterMap id
      if found ≠ [] then showTogether c w files.length found
      return if sources.any (·.isNone) then 1 else 0
    else
      forEach files fun file => do
        match ← source? c w.isQuiet file with
        | none => return 1
        | some s => do
            showTogether c w 1 [s]
            return 0

end SkipAudit.Utility
