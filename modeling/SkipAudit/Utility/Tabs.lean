/-
Programs that turn tabs into blanks, and blanks into tabs.
-/
import SkipAudit.Utility.Copying

namespace SkipAudit.Utility

namespace Tabs

/-- Where tabs lead: to some columns, and behind those to multiples of a number, which are
counted from the beginning of the line or from the last of the columns. -/
structure Stops where
  columns : List Nat
  /-- None if there are no stops behind the columns. -/
  step? : Option Nat
  fromLast : Bool

/-- The next stop behind a column. -/
def Stops.next? (s : Stops) (column : Nat) : Option Nat :=
  match s.columns.find? (column < ·) with
  | some stop => some stop
  | none => s.step?.map fun n =>
      if s.fromLast then column + (n - (column - s.columns.getLastD 0) % n)
      else column + (n - column % n)

/-- The usual stops. -/
def usual : Stops := ⟨[], some 8, false⟩

/-- A part of a list of stops: a column, or a step behind a sign. -/
inductive Item where
  | column (n : Nat)
  | step (n : Nat)
  | stepFromLast (n : Nat)

/-- Read a part of a list of stops. -/
def item (c : Call) (t : Octets) : Except Octets (Option Item) :=
  let number (u : Octets) : Except Octets Nat :=
    let ds := u.takeWhile Char.isDigit
    match u.drop ds.length with
    | [] =>
        let n := (Text.toNat? ds).getD 0
        if Natural.twoTo 64 ≤ n then .error (text "tab stop is too large " ++ c.quote ds) else .ok n
    | x :: rest =>
        if x = '/' || x = '+' then
          .error (c.quote [x] ++ text " specifier not at start of number: " ++
            c.quote (x :: rest))
        else .error (text "tab size contains invalid character(s): " ++ c.quote (x :: rest))
  match t with
  | [] => .ok none
  | '/' :: u => if u = [] then .ok none else (number u).map (some ∘ Item.step)
  | '+' :: u => if u = [] then .ok none else (number u).map (some ∘ Item.stepFromLast)
  | u => (number u).map (some ∘ Item.column)

/-- A sign stands behind a last value. -/
def lastOnly (c : Call) (sign : Char) : Octets :=
  c.quote [sign] ++ text " specifier only allowed with the last value"

/-- The stops that the parts of a list stand for. -/
def ofItems (c : Call) (items : List Item) : Except Octets Stops := do
  let columns := items.filterMap fun
    | .column n => some n
    | _ => none
  let steps := items.filterMap fun
    | .step n => some n
    | _ => none
  let fromLasts := items.filterMap fun
    | .stepFromLast n => some n
    | _ => none
  let isLast : Bool := match items.getLast? with
    | some (.column _) => steps = [] && fromLasts = []
    | _ => steps.length + fromLasts.length ≤ 1
  if !isLast then .error (lastOnly c (if steps ≠ [] then '/' else '+'))
  else if columns.any (· = 0) then .error (text "tab size cannot be 0")
  else if (columns.zip (columns.drop 1)).any fun (a, b) => b ≤ a then
    .error (text "tab sizes must be ascending")
  else match columns, steps, fromLasts with
    | _, n :: _, _ => if n = 0 then .ok ⟨columns, none, false⟩ else .ok ⟨columns, some n, false⟩
    | _, _, n :: _ => if n = 0 then .ok ⟨columns, none, false⟩ else .ok ⟨columns, some n, true⟩
    | [], _, _ => .ok usual
    | [n], _, _ => .ok ⟨[], some n, false⟩
    | _, _, _ => .ok ⟨columns, none, false⟩

/-- Read lists of stops. -/
def read (c : Call) (lists : List Octets) : Except Octets Stops := do
  let parts := lists.flatMap fun t =>
    Text.cutAt ',' (t.map fun x => if x = ' ' || x = '\t' then ',' else x)
  ofItems c ((← parts.mapM (item c)).filterMap id)

/-! ## Tabs to blanks -/

/-- Where the writing of a line stands. -/
structure Expanding where
  column : Nat
  converts : Bool
  /-- The last character first. -/
  out : Octets

/-- Write a character. -/
def expandChar (s : Stops) (wholeLine : Bool) (x : Expanding) (ch : Char) : Expanding :=
  if ch = '\n' then ⟨0, true, '\n' :: x.out⟩
  else if !x.converts then { x with out := ch :: x.out }
  else if ch = '\t' then
    let stop := (s.next? x.column).getD (x.column + 1)
    { x with column := stop, out := List.replicate (stop - x.column) ' ' ++ x.out }
  else
    let column := if ch = '\x08' then x.column - 1 else x.column + 1
    ⟨column, wholeLine || ch = ' ', ch :: x.out⟩

/-! ## Blanks to tabs -/

/-- Where the writing of a line stands. -/
structure Unexpanding where
  column : Nat
  converts : Bool
  wasBlank : Bool
  /-- The first of the blanks that wait stands in front of a stop. -/
  isBeforeStop : Bool
  /-- Blanks that wait, the last one first. -/
  pending : Octets
  out : Octets

/-- At the beginning of a line. -/
def Unexpanding.start (out : Octets) : Unexpanding := ⟨0, true, true, false, [], out⟩

/-- The blanks that wait are written. -/
def Unexpanding.settled (x : Unexpanding) : Unexpanding :=
  let pending := if 1 < x.pending.length && x.isBeforeStop then x.pending.dropLast ++ ['\t']
    else x.pending
  if x.pending = [] then x
  else { x with pending := [], isBeforeStop := false, out := pending ++ x.out }

/-- Write a character. -/
def unexpandChar (s : Stops) (wholeLine : Bool) (x : Unexpanding) (ch : Char) : Unexpanding :=
  if ch = '\n' then .start ('\n' :: x.settled.out)
  else if !x.converts then { x with out := ch :: x.out }
  else
    let finish (x : Unexpanding) (isBlank : Bool) (ch : Char) : Unexpanding :=
      let x := x.settled
      { x with wasBlank := isBlank, converts := x.converts && (wholeLine || isBlank)
               out := ch :: x.out }
    if ch = ' ' || ch = '\t' then
      match s.next? x.column with
      | none => { finish x true ch with converts := false }
      | some stop =>
          let kept (pending : Octets) : Octets :=
            if x.isBeforeStop then pending.reverse.take 1 else []
          if ch = '\t' then
            let pending := if x.pending = [] then [] else x.pending.dropLast ++ ['\t']
            finish { x with column := stop, pending := kept pending } true '\t'
          else
            let column := x.column + 1
            if x.wasBlank && column = stop then
              finish { x with column, pending := kept (x.pending.dropLast ++ ['\t']) } true '\t'
            else
              { x with
                column, wasBlank := true, pending := ' ' :: x.pending
                isBeforeStop := x.isBeforeStop || column = stop }
    else
      let column := if ch = '\x08' then x.column - 1 else x.column + 1
      finish { x with column } false ch

end Tabs

/-- Go through all inputs with a state, and write what comes of each block. -/
def foldInputs {σ : Type} (c : Call) (files : List Octets) (s : σ)
    (step : σ → Octets → σ × Octets) (finish : σ → Octets) : Action Nat := do
  let (status, s) ← (inputsOr files).foldlM (fun (status, s) file => do
    match ← openInput file with
    | .error e =>
        c.warn (c.shown file ++ text ": " ++ e.reason)
        return (1, s)
    | .ok fd =>
        let (s, fault?) ← Action.repeatUntil (s, none) (fun s => do
          match ← Action.read fd Action.blockSize with
          | .ok [] => return .inr (s, none)
          | .ok bytes =>
              let (s, out) := step s bytes
              say c out
              return .inl s
          | .error e => return .inr (s, some e)) Action.rounds s
        closeInput fd
        match fault? with
        | some e =>
            c.warn (c.shown file ++ text ": " ++ e.reason)
            return (1, s)
        | none => return (status, s)) ((0, s) : Nat × σ)
  say c (finish s)
  return status

open Tabs in
/-- Turn tabs into blanks. -/
def expand : Utility := fun c =>
  withOptions 1 "it:0123456789"
    [("initial", 'i', .none), ("tabs", 't', .needed)] c fun p => do
    match read c (oldLists p.options) with
    | .error e => c.die 1 e
    | .ok stops =>
        foldInputs c p.rest (⟨0, true, []⟩ : Expanding) (fun x bytes =>
          let x := bytes.foldl (expandChar stops (!p.has 'i')) x
          ({ x with out := [] }, x.out.reverse)) fun _ => []
where
  /-- Lists of stops, where digits that are options count as lists too. -/
  oldLists (options : List (Char × Octets)) : List Octets :=
    let digits := (options.filter (·.1.isDigit)).map (·.1)
    (if digits = [] then [] else [digits]) ++
      (options.filter (·.1 = 't')).map (·.2)

open Tabs in
/-- Turn blanks into tabs. -/
def unexpand : Utility := fun c =>
  withOptions 1 ",0123456789at:"
    [("all", 'a', .none), ("first-only", 'φ', .none), ("tabs", 't', .needed)] c fun p => do
    let digits := (p.options.filter fun o => o.1.isDigit || o.1 = ',').map (·.1)
    let lists := (if digits = [] then [] else [digits]) ++ p.values 't'
    match read c lists with
    | .error e => c.die 1 e
    | .ok stops =>
        let wholeLine := (p.has 'a' || lists ≠ []) && !p.has 'φ'
        foldInputs c p.rest (Unexpanding.start []) (fun x bytes =>
          let x := bytes.foldl (unexpandChar stops wholeLine) x
          ({ x with out := [] }, x.out.reverse)) fun x => x.settled.out.reverse

end SkipAudit.Utility
