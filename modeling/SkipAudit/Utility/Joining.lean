/-
Programs that go through two sorted inputs side by side: one tells the lines that only one of
them has from those in both, the other puts lines together whose fields agree.
-/
import SkipAudit.Utility.Deeds
import SkipAudit.Utility.Fields

namespace SkipAudit.Utility

namespace Joining

/-! ## Order of the inputs -/

/-- What is done about inputs that are not sorted. -/
inductive Checking where
  /-- A line out of order is told as soon as a line without a partner was seen. -/
  | ifUnpaired
  /-- A line out of order ends everything. -/
  | always
  | never
deriving DecidableEq

/-- What the options say of it. -/
def checkingOf (p : Parsed) : Checking :=
  match p.lastOf? ['χ', 'ω'] with
  | some 'χ' => .always
  | some _ => .never
  | none => .ifUnpaired

/-- The words of the options for it. -/
def checkingWords : List Word := [("check-order", 'χ', .none), ("nocheck-order", 'ω', .none)]

/-- Two inputs on the way, and what has become of them. -/
structure Progress (α : Type) where
  /-- What is left of each input. -/
  first : List α
  second : List α
  /-- Both inputs are one and the same, whose lines come in turn. -/
  isShared : Bool
  /-- How many lines of each input were taken. -/
  taken : Nat × Nat
  /-- The last line that was taken of each. -/
  last : Option α × Option α
  /-- Of which input it was told that it is not sorted. -/
  told : Bool × Bool
  hasUnpaired : Bool
  /-- An input was not sorted, which ends everything. -/
  isOver : Bool
  /-- What was written, the newest part first. -/
  writes : List (Stream × Octets)

namespace Progress

variable {α : Type}

/-- The beginning. -/
def start (first second : List α) (isShared : Bool) : Progress α :=
  ⟨first, second, isShared, (0, 0), (none, none), (false, false), false, false, []⟩

/-- Write something, unless it is over. -/
def write (s : Progress α) (stream : Stream) (t : Octets) : Progress α :=
  if s.isOver then s else { s with writes := (stream, t) :: s.writes }

/-- What is to be known for a check of the order. -/
structure Rule (α : Type) where
  checking : Checking
  /-- The lines are out of order. -/
  isFall : Bool → α → α → Bool
  /-- The complaint about a line of an input. -/
  complaint : Bool → Nat → α → Octets

/-- Check two lines that follow each other. -/
def check (r : Rule α) (isSecond : Bool) (before after : α) (s : Progress α) : Progress α :=
  let isDue := r.checking = .always || (r.checking = .ifUnpaired && s.hasUnpaired)
  let isTold := if isSecond then s.told.2 else s.told.1
  if isDue && !isTold && r.isFall isSecond before after then
    let number := if isSecond then s.taken.2 else s.taken.1
    let s := s.write .errors (r.complaint isSecond number after)
    { s with
      told := if isSecond then (s.told.1, true) else (true, s.told.2)
      isOver := s.isOver || r.checking = .always }
  else s

/-- Take a line of an input, and check it against the one before. -/
def next (r : Rule α) (isSecond : Bool) (s : Progress α) : Option α × Progress α :=
  let source := if isSecond && !s.isShared then s.second else s.first
  match source with
  | [] => (none, s)
  | l :: rest =>
      let s :=
        if isSecond && !s.isShared then { s with second := rest } else { s with first := rest }
      let before? := if isSecond then s.last.2 else s.last.1
      let s := { s with
        taken := if isSecond then (s.taken.1, s.taken.2 + 1) else (s.taken.1 + 1, s.taken.2)
        last := if isSecond then (s.last.1, some l) else (some l, s.last.2) }
      (some l, match before? with
        | some before => s.check r isSecond before l
        | none => s)

/-- What has come of it: whoever was told of inputs that are not sorted fails. -/
def report (c : Call) (s : Progress α) : Report :=
  if s.isOver then ⟨1, s.writes.reverse⟩
  else if s.told.1 || s.told.2 then
    ⟨1, ((.errors, c.complaint (text "input is not in sorted order")) :: s.writes).reverse⟩
  else ⟨0, s.writes.reverse⟩

end Progress

/-- The lines of an input that is open. -/
def linesFrom (c : Call) (lineEnd : Char) (complaint : FileError → Octets) (fd : Nat) :
    Action (List Octets) := do
  match ← Action.readAll fd with
  | .ok t => return (linesEnding lineEnd t).map (Text.dropFinal lineEnd)
  | .error e => c.die 1 (complaint e)

/-- Open an input, or end with a complaint. -/
def opened (c : Call) (file : Octets) : Action Nat := do
  match ← openInput file with
  | .ok fd => return fd
  | .error e => c.die 1 (because c file e)

/-! ## Lines in common -/

/-- The order of two lines. -/
def compareLines (a b : Octets) : Ordering := compareOfLessAndEq a b

/-- How lines in common are shown. -/
structure Sharing where
  showsFirst : Bool
  showsSecond : Bool
  showsBoth : Bool
  joint : Octets
  lineEnd : Char
  rule : Progress.Rule Octets

/-- How many lines of each kind there were: in the first input, in the second, in both. -/
abbrev Totals := Nat × Nat × Nat

/-- A line of some kind. -/
def Sharing.line (k : Sharing) (order : Ordering) (l : Octets) : Octets :=
  let inFront (b : Bool) : Octets := if b then k.joint else []
  match order with
  | .lt => if k.showsFirst then l ++ [k.lineEnd] else []
  | .gt => if k.showsSecond then inFront k.showsFirst ++ l ++ [k.lineEnd] else []
  | .eq =>
      if k.showsBoth then inFront k.showsFirst ++ inFront k.showsSecond ++ l ++ [k.lineEnd] else []

/-- Take the next line of an input in the place of one; at its end the last two lines are checked
once more, as there may be a reason now. -/
def Sharing.renew (k : Sharing) (isSecond : Bool) (older? : Option Octets) (l : Octets)
    (s : Progress Octets) : Option Octets × Progress Octets :=
  match s.next k.rule isSecond with
  | (some l', s) => (some l', s)
  | (none, s) =>
      (none, match older? with
        | some older => s.check k.rule isSecond older l
        | none => s)

/-- The line of an input that is at hand, and the one before. -/
abbrev AtHand := Option Octets × Option Octets

/-- Go through both inputs; the number bounds how many lines there are. -/
def Sharing.run (k : Sharing) :
    Nat → AtHand → AtHand → Totals → Progress Octets → Totals × Progress Octets
  | 0, _, _, ts, s => (ts, s)
  | n + 1, (a?, olderA), (b?, olderB), (x, y, z), s =>
      if s.isOver then ((x, y, z), s)
      else
        let order? : Option Ordering := match a?, b? with
          | none, none => none
          | none, some _ => some .gt
          | some _, none => some .lt
          | some a, some b => some (compareLines a b)
        match order? with
        | none => ((x, y, z), s)
        | some order =>
            let shown := if order = .lt then a?.getD [] else b?.getD []
            let s := { s with hasUnpaired := s.hasUnpaired || order != Ordering.eq }
            let s := s.write .output (k.line order shown)
            let ((a?, olderA), s) := if order = .gt then ((a?, olderA), s)
              else
                let (next?, s) := k.renew false olderA (a?.getD []) s
                ((next?, a?), s)
            let ((b?, olderB), s) := if order = .lt then ((b?, olderB), s)
              else
                let (next?, s) := k.renew true olderB (b?.getD []) s
                ((next?, b?), s)
            let ts := match order with
              | .lt => (x + 1, y, z)
              | .gt => (x, y + 1, z)
              | .eq => (x, y, z + 1)
            k.run n (a?, olderA) (b?, olderB) ts s

/-! ## Fields in common -/

/-- A line with its fields. -/
structure Row where
  whole : Octets
  fields : List Octets

/-- A field of the output: that in common, or one of an input. -/
inductive Column where
  | common
  | field (isSecond : Bool) (n : Nat)
deriving DecidableEq

/-- How rows are put together. -/
structure Matching where
  /-- The fields that have to agree. -/
  firstField : Nat
  secondField : Nat
  foldsCase : Bool
  /-- What stands between fields, if it is said. -/
  tab? : Option Char
  lineEnd : Char
  showsPairs : Bool
  showsFirst : Bool
  showsSecond : Bool
  hasHeader : Bool
  filler : Octets
  columns : List Column
  /-- How many fields rows have, if that is taken from the first ones. -/
  isAutomatic : Bool
  widths : Nat × Nat

namespace Matching

/-- A blank between fields. -/
def isGap (c : Char) : Bool := c == ' ' || c == '\t' || c == '\n'

/-- The fields of a line between blanks.  Blanks at the end make one more field, that is empty. -/
def fieldsBetweenGaps (t : Octets) : List Octets :=
  let t := t.dropWhile isGap
  let ends := t.getLast?.any isGap
  let words := (t.foldr (fun c (ws : List Octets) =>
    if isGap c then
      match ws with
      | [] :: _ => ws
      | ws => [] :: ws
    else match ws with
      | w :: ws => (c :: w) :: ws
      | [] => [[c]]) [])
  if t = [] then [] else if ends then words.filter (· ≠ []) ++ [[]] else words.filter (· ≠ [])

/-- The fields of a line. -/
def row (k : Matching) (t : Octets) : Row :=
  ⟨t, if t = [] then []
    else match k.tab? with
      | none => fieldsBetweenGaps t
      | some '\n' => [t]
      | some c => Text.cutAt c t⟩

/-- A field of a row. -/
def fieldOr (k : Matching) (r : Row) (n : Nat) : Octets :=
  match r.fields[n]? with
  | none | some [] => k.filler
  | some t => t

/-- The order of two fields. -/
def compareFields (k : Matching) (a b : Option Octets) : Ordering :=
  let fold (t : Octets) : Octets := if k.foldsCase then t.map Char.toUpper else t
  compareLines (fold (a.getD [])) (fold (b.getD []))

/-- The field of a row that has to agree. -/
def keyOf (k : Matching) (isSecond : Bool) (r : Row) : Option Octets :=
  r.fields[if isSecond then k.secondField else k.firstField]?

/-- The order of two rows of both inputs. -/
def compareRows (k : Matching) (a b : Row) : Ordering :=
  k.compareFields (k.keyOf false a) (k.keyOf true b)

/-- The row of the output for two rows, one of which may be missing. -/
def joined (k : Matching) (a? b? : Option Row) : Octets :=
  let none' : Row := ⟨[], []⟩
  let (a, b) := (a?.getD none', b?.getD none')
  let common := if a?.isNone then k.fieldOr b k.secondField else k.fieldOr a k.firstField
  let others (r : Row) (key width : Nat) : List Octets :=
    let count := if k.isAutomatic then width else r.fields.length
    ((List.range count).filter (· ≠ key)).map (k.fieldOr r)
  let parts := if k.columns = [] then
      common :: others a k.firstField k.widths.1 ++ others b k.secondField k.widths.2
    else k.columns.map fun
      | .common => common
      | .field false n => k.fieldOr a n
      | .field true n => k.fieldOr b n
  (List.intersperse [k.tab?.getD ' '] parts).flatten ++ [k.lineEnd]

/-- Take rows as long as they agree with another one: those rows, and the first that does not. -/
def gather (r : Progress.Rule Row) (isSecond : Bool) (agrees : Row → Bool) :
    Nat → List Row → Progress Row → List Row × Option Row × Progress Row
  | 0, rows, s => (rows.reverse, none, s)
  | n + 1, rows, s =>
      match s.next r isSecond with
      | (none, s) => (rows.reverse, none, s)
      | (some row, s) =>
          if agrees row then gather r isSecond agrees n (row :: rows) s
          else (rows.reverse, some row, s)

/-- Go through both inputs as long as each has rows; the number bounds how many there are. -/
def pairs (k : Matching) (r : Progress.Rule Row) :
    Nat → Option Row → Option Row → Progress Row → Option Row × Option Row × Progress Row
  | n + 1, some a, some b, s =>
      if s.isOver then (some a, some b, s)
      else match k.compareRows a b with
        | .lt =>
            let s := if k.showsFirst then s.write .output (k.joined (some a) none) else s
            let (a?, s) := s.next r false
            k.pairs r n a? (some b) { s with hasUnpaired := true }
        | .gt =>
            let s := if k.showsSecond then s.write .output (k.joined none (some b)) else s
            let (b?, s) := s.next r true
            k.pairs r n (some a) b? { s with hasUnpaired := true }
        | .eq =>
            let (as, a?, s) := gather r false (fun x => k.compareRows x b = .eq) (n + 1) [a] s
            let (bs, b?, s) := gather r true (fun x => k.compareRows a x = .eq) (n + 1) [b] s
            let s := if k.showsPairs then
                as.foldl (fun s a => bs.foldl (fun s b =>
                  s.write .output (k.joined (some a) (some b))) s) s
              else s
            k.pairs r n a? b? s
  | _, a?, b?, s => (a?, b?, s)

/-- Show the rows of one input that have no partner; the number bounds how many there are. -/
def tailOf (k : Matching) (r : Progress.Rule Row) (isSecond : Bool) :
    Nat → Option Row → Progress Row → Progress Row
  | n + 1, some row, s =>
      if s.isOver then s
      else
        let shows := if isSecond then k.showsSecond else k.showsFirst
        let line := if isSecond then k.joined none (some row) else k.joined (some row) none
        let s := if shows then s.write .output line else s
        let (row?, s) := s.next r isSecond
        k.tailOf r isSecond n row? s
  | _, _, s => s

/-- Put two inputs together. -/
def run (k : Matching) (r : Progress.Rule Row) (s : Progress Row) : Progress Row :=
  let bound := s.first.length + s.second.length + 2
  let (a?, s) := s.next r false
  let (b?, s) := s.next r true
  let k := { k with
    widths := ((a?.map fun (x : Row) => x.fields.length).getD 0,
      (b?.map fun (x : Row) => x.fields.length).getD 0) }
  let (a?, b?, s) :=
    if k.hasHeader && (a?.isSome || b?.isSome) then
      let s := s.write .output (k.joined (some (a?.getD ⟨[], []⟩)) b?)
      let s := { s with last := (none, none) }
      let (a?, s) := if a?.isSome then s.next r false else (a?, s)
      let (b?, s) := if b?.isSome then s.next r true else (b?, s)
      (a?, b?, s)
    else (a?, b?, s)
  let (a?, b?, s) := k.pairs r bound a? b? s
  let checks : Bool := r.checking ≠ Checking.never && !(s.told.1 && s.told.2)
  let s := if (k.showsFirst || checks) && a?.isSome then
      k.tailOf r false bound a? { s with hasUnpaired := s.hasUnpaired || b?.isSome }
    else s
  if (k.showsSecond || checks) && b?.isSome then
    k.tailOf r true bound b? { s with hasUnpaired := s.hasUnpaired || a?.isSome }
  else s

end Matching

/-! ## Reading what is said of fields -/

/-- The number of a field, counted from zero. -/
def fieldNumber (t : Octets) : Except Octets Nat :=
  match count "" t with
  | .ok 0 | .error .invalid | .error .badUnit => .error t
  | .ok n => .ok (n - 1)
  | .error .tooLarge => .ok (greatestCount - 1)

/-- One column of the output. -/
def column (c : Call) (t : Octets) : Except Octets Column :=
  let invalid : Except Octets Column := .error (text "invalid field specifier: " ++ c.quote t)
  match t with
  | ['0'] => .ok .common
  | '0' :: _ => invalid
  | file :: rest =>
      if file ≠ '1' && file ≠ '2' then
        .error (text "invalid file number in field spec: " ++ c.quote t)
      else match rest with
        | '.' :: number =>
            match fieldNumber number with
            | .ok n => .ok (.field (file == '2') n)
            | .error x => .error (text "invalid field number: " ++ c.quote x)
        | _ => invalid
  | [] => .error (text "invalid file number in field spec: " ++ c.quote t)

/-- The columns of the output, between commas and blanks. -/
def columnsIn (c : Call) (t : Octets) : Except Octets (List Column) :=
  (Text.cutAt ',' (t.map fun x => if x = ' ' || x = '\t' then ',' else x)).mapM (column c)

/-- What the options say. -/
structure Wishes where
  firstField? : Option Nat
  secondField? : Option Nat
  tab? : Option Char
  showsPairs : Bool
  showsFirst : Bool
  showsSecond : Bool
  filler? : Option Octets
  columns : List Column
  isAutomatic : Bool

/-- A field that has to agree, unless another one was said before. -/
def agreeing (old? : Option Nat) (n : Nat) : Except Octets (Option Nat) :=
  match old? with
  | none => .ok (some n)
  | some m =>
      if m = n then .ok old?
      else .error (text "incompatible join fields " ++ Text.ofNat (m + 1) ++ text ", " ++
        Text.ofNat (n + 1))

/-- The wishes after one more option. -/
def Wishes.after (c : Call) (w : Wishes) : Char × Octets → Except Octets Wishes
  | ('1', t) => do
      let n ← (fieldNumber t).mapError fun x => text "invalid field number: " ++ c.quote x
      return { w with firstField? := ← agreeing w.firstField? n }
  | ('2', t) => do
      let n ← (fieldNumber t).mapError fun x => text "invalid field number: " ++ c.quote x
      return { w with secondField? := ← agreeing w.secondField? n }
  | ('j', t) => do
      let n ← (fieldNumber t).mapError fun x => text "invalid field number: " ++ c.quote x
      return { w with
        firstField? := ← agreeing w.firstField? n
        secondField? := ← agreeing w.secondField? n }
  | ('e', t) =>
      if w.filler?.any (· ≠ t) then .error (text "conflicting empty-field replacement strings")
      else .ok { w with filler? := some t }
  | ('o', t) =>
      if t = text "auto" then .ok { w with isAutomatic := true }
      else do return { w with columns := w.columns ++ (← columnsIn c t) }
  | ('t', t) =>
      let tab? : Option Char := match t with
        | [] => some '\n'
        | [x] => some x
        | ['\\', '0'] => some Octets.nul
        | _ => none
      match tab? with
      | none => .error (text "multi-character tab " ++ c.quote t)
      | some tab =>
          if w.tab?.any (· ≠ tab) then .error (text "incompatible tabs")
          else .ok { w with tab? := some tab }
  | (letter, t) =>
      if letter = 'a' || letter = 'v' then
        let w := if letter = 'v' then { w with showsPairs := false } else w
        match (count "" t).toOption with
        | some 1 => .ok { w with showsFirst := true }
        | some 2 => .ok { w with showsSecond := true }
        | _ => .error (text "invalid file number: " ++ c.quote t)
      else .ok w

end Joining

open Joining in
/-- Compare two sorted inputs line by line. -/
def comm : Utility := fun c =>
  withOptions 1 "123z"
    (checkingWords ++ [("output-delimiter", 'ο', .needed), ("total", 'τ', .none),
      ("zero-terminated", 'z', .none)]) c fun p => do
    let joints := p.values 'ο'
    match joints with
    | j :: js => if js.any (· ≠ j) then c.die 1 (text "multiple output delimiters specified")
    | [] => pure ()
    match p.rest with
    | [] => c.misused 1 (text "missing operand")
    | [f] => c.misused 1 (text "missing operand after " ++ c.quote f)
    | _ :: _ :: x :: _ => c.misused 1 (extraOperand c x)
    | [f, g] =>
        let joint := match joints.getLast? with
          | none => ['\t']
          | some [] => [Octets.nul]
          | some t => t
        let lineEnd := if p.has 'z' then Octets.nul else '\n'
        let rule : Progress.Rule Octets :=
          ⟨checkingOf p, fun _ a b => compareLines a b = .gt, fun isSecond _ _ =>
            c.complaint (text "file " ++ text (if isSecond then "2" else "1") ++
              text " is not in sorted order")⟩
        let k : Sharing := ⟨!p.has '1', !p.has '2', !p.has '3', joint, lineEnd, rule⟩
        let fd ← opened c f
        let first ← linesFrom c lineEnd (because c f) fd
        let fd' ← opened c g
        let isShared : Bool := fd = 0 && fd' = 0
        let second ← if isShared then pure [] else linesFrom c lineEnd (because c g) fd'
        let s : Progress Octets := .start first second isShared
        let (a?, s) := s.next rule false
        let (b?, s) := s.next rule true
        let ((x, y, z), s) := k.run (first.length + second.length + 1) (a?, none) (b?, none)
          (0, 0, 0) s
        let s := if p.has 'τ' then
            s.write .output ((List.intersperse (if joint = [Octets.nul] then [] else joint)
              [Text.ofNat x, Text.ofNat y, Text.ofNat z, text "total"]).flatten ++ [lineEnd])
          else s
        deliver c (s.report c)

open Joining in
/-- Put the lines of two sorted inputs together whose fields agree. -/
def join : Utility := fun c =>
  withOptions 1 "a:e:i1:2:j:o:t:v:z"
    (checkingWords ++ [("ignore-case", 'i', .none), ("zero-terminated", 'z', .none),
      ("header", 'θ', .none)]) c fun p => do
    let w ← match p.options.foldlM (Wishes.after c)
        ⟨none, none, none, true, false, false, none, [], false⟩ with
      | .ok w => pure w
      | .error t => c.die 1 t
    let excess := p.rest.length - 2
    let lists := if p.has 'o' then p.rest.take excess else []
    let files := p.rest.drop lists.length
    let w ← match lists.foldlM (fun w t => w.after c ('o', t)) w with
      | .ok w => pure w
      | .error t => c.die 1 t
    match files with
    | [] => c.misused 1 (text "missing operand")
    | [_] => c.misused 1 (text "missing operand after " ++ c.quote (c.args.getLastD []))
    | _ :: _ :: x :: _ => c.misused 1 (text "extra operand " ++ c.quoted x)
    | [f, g] =>
        let lineEnd := if p.has 'z' then Octets.nul else '\n'
        let fd ← opened c f
        let fd' ← opened c g
        if fd = 0 && fd' = 0 then c.die 1 (text "both files cannot be standard input")
        let k : Matching :=
          { firstField := w.firstField?.getD 0, secondField := w.secondField?.getD 0
            foldsCase := p.has 'i', tab? := w.tab?, lineEnd, showsPairs := w.showsPairs
            showsFirst := w.showsFirst, showsSecond := w.showsSecond, hasHeader := p.has 'θ'
            filler := w.filler?.getD [], columns := w.columns, isAutomatic := w.isAutomatic
            widths := (0, 0) }
        let rule : Progress.Rule Row :=
          ⟨checkingOf p, fun isSecond a b =>
            k.compareFields (k.keyOf isSecond a) (k.keyOf isSecond b) = .gt,
            fun isSecond n r => c.complaint ((if isSecond then g else f) ++ ':' :: Text.ofNat n ++
              text ": is not sorted: " ++ r.whole)⟩
        let readFault (e : FileError) : Octets := text "read error: " ++ e.reason
        let first ← linesFrom c lineEnd readFault fd
        let second ← linesFrom c lineEnd readFault fd'
        let s := k.run rule (.start (first.map k.row) (second.map k.row) false)
        deliver c (s.report c)

end SkipAudit.Utility
