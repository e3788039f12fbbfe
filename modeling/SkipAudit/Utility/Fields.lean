/-
Programs for the fields of lines: cutting them out, and putting them side by side.
-/
import SkipAudit.Format.Escape
import SkipAudit.Utility.Copying
import SkipAudit.Utility.LineSource
import SkipAudit.Utility.Spans

namespace SkipAudit.Utility

/-! ## Cutting -/

/-- Ranges in order, those that overlap put together; the first one is at hand. -/
def joinedSpans : Span → List Span → List Span
  | s, [] => [s]
  | s, t :: rest =>
      match s.high? with
      | none => [s]
      | some high =>
          if t.low ≤ high then joinedSpans ⟨s.low, t.high?.map (max high)⟩ rest
          else s :: joinedSpans t rest

/-- Ranges in order, without overlaps. -/
def sortedSpans (spans : List Span) : List Span :=
  match spans.mergeSort fun s t => s.low ≤ t.low with
  | [] => []
  | s :: rest => joinedSpans s rest

/-- The ranges between sorted ones, from a position on. -/
def spansBetween (low : Nat) : List Span → List Span
  | [] => [⟨low, none⟩]
  | s :: rest =>
      let front : List Span := if low < s.low then [⟨low, some (s.low - 1)⟩] else []
      match s.high? with
      | some high => front ++ spansBetween (high + 1) rest
      | none => front

/-- Cut the fields out of a line; nothing for a line without a delimiter that is dropped. -/
def cutFields (delimiter : Char) (joint : Octets) (dropsOthers : Bool) (wanted : Nat → Bool)
    (line : Octets) : Option Octets :=
  if line.contains delimiter then
    some (List.intersperse joint (atPositions wanted (Text.cutAt delimiter line))).flatten
  else if dropsOthers then none
  else some line

/-- The bytes of a line that stand in some ranges, with a text in front of each range but the
first that there is. -/
def cutBytes (joint : Octets) (spans : List Span) (line : Octets) : Octets :=
  let step (s : Nat × Bool × Octets) (c : Char) : Nat × Bool × Octets :=
    let (n, hasAny, out) := s
    if inSpans spans n then
      let begins := hasAny && joint ≠ [] && spans.any fun s => s.low = n
      (n + 1, true, c :: ((if begins then joint.reverse else []) ++ out))
    else (n + 1, hasAny, out)
  (line.foldl step (1, false, [])).2.2.reverse

/-- Do something with the lines of every input as they come. -/
def overLines (c : Call) (lineEnd : Char) (files : List Octets) (f : Octets → Octets) :
    Action Nat :=
  (inputsOr files).foldlM (fun status file => do
    match ← openInput file with
    | .error e =>
        c.warn (c.shown file ++ text ": " ++ e.reason)
        return 1
    | .ok fd =>
        let (_, fault?, _) ← passLinesEnding lineEnd c fd (fun () l => ⟨(), f l, false⟩) ()
        closeInput fd
        match fault? with
        | some e =>
            c.warn (c.shown file ++ text ": " ++ e.reason)
            return 1
        | none => return status) 0

/-- Cut parts out of lines. -/
def cut : Utility := fun c =>
  withOptions 1 "b:c:d:f:nsz"
    [("bytes", 'b', .needed), ("characters", 'c', .needed), ("delimiter", 'd', .needed),
     ("fields", 'f', .needed), ("only-delimited", 's', .none), ("complement", 'κ', .none),
     ("output-delimiter", 'ο', .needed), ("zero-terminated", 'z', .none)] c fun p => do
    let delimiters := p.values 'd'
    if delimiters.any (1 < ·.length) then
      c.misuse 1 (text "the delimiter must be a single character")
    match p.options.filter fun o => "bcf".contains o.1 with
    | [] => c.misused 1 (text "you must specify a list of bytes, characters, or fields")
    | _ :: _ :: _ => c.misused 1 (text "only one list may be specified")
    | [(kind, t)] =>
        let isFields : Bool := kind = 'f'
        if !isFields && delimiters ≠ [] then
          c.misused 1 (text "an input delimiter may be specified only when operating on fields")
        else if !isFields && p.has 's' then
          c.misused 1 (text ("suppressing non-delimited lines makes sense\n" ++
            "\tonly when operating on fields"))
        else match spansOf c (if isFields then Span.ofFields else Span.ofCharacters) t with
          | .error fault => c.misused 1 fault
          | .ok spans =>
              let spans := sortedSpans spans
              let spans := if p.has 'κ' then spansBetween 1 spans else spans
              let lineEnd := if p.has 'z' then Octets.nul else '\n'
              let d := match delimiters.getLast? with
                | none => '\t'
                | some t => t.headD Octets.nul
              let fieldJoint := (p.value? 'ο').getD [d]
              if isFields && d = lineEnd then
                overTexts c p.rest fun t =>
                  if t = [] then []
                  else match cutFields d fieldJoint (p.has 's') (inSpans spans)
                      (Text.dropFinal d t) with
                    | some u => u ++ [lineEnd]
                    | none => []
              else
                overLines c lineEnd p.rest fun l =>
                  let line := Text.dropFinal lineEnd l
                  if isFields then
                    match cutFields d fieldJoint (p.has 's') (inSpans spans) line with
                    | some t => t ++ [lineEnd]
                    | none => []
                  else cutBytes ((p.value? 'ο').getD []) spans line ++ [lineEnd]

/-! ## Putting side by side -/

/-- The texts that stand between columns, each of them one character or nothing; none if a
backslash stands at the end. -/
def joints? : Octets → Option (List Octets)
  | [] => some []
  | '\\' :: [] => none
  | '\\' :: c :: t =>
      let u :=
        if c = '0' then []
        else if c = 'a' || c = 'e' then [c]
        else [(Escape.ofLetter? c).getD c]
      (joints? t).map (u :: ·)
  | c :: t => (joints? t).map ([c] :: ·)

/-- The text in front of a column that is not the first. -/
def jointBefore (joints : List Octets) (column : Nat) : Octets :=
  (joints[(column - 1) % joints.length]?).getD []

/-- Texts side by side. -/
def sideBySide (joints : List Octets) (columns : List Octets) : Octets :=
  (columns.mapIdx fun i t => if i = 0 then t else jointBefore joints i ++ t).flatten

/-- Put the lines of one input behind each other. -/
def pasteSerially (c : Call) (lineEnd : Char) (joints : List Octets) (fd : Nat) :
    Action (Option FileError) := do
  let (n, fault?, _) ← passLinesEnding lineEnd c fd (fun n l =>
    ⟨n + 1, (if n = 0 then [] else jointBefore joints n) ++ Text.dropFinal lineEnd l, false⟩) 0
  let _ : Nat := n
  say c [lineEnd]
  return fault?

/-- Inputs that are read side by side: of each operand the number of its source, and the
sources. -/
structure SideBySide where
  operands : List (Octets × Nat)
  sources : List (Nat × LineSource)

/-- Take a line from the input with a number. -/
def SideBySide.next (s : SideBySide) (number : Nat) :
    Action (Except FileError (Option Octets × SideBySide)) := do
  match s.sources.lookup number with
  | none => return .ok (none, s)
  | some source =>
      match ← source.next with
      | .error e => return .error e
      | .ok (l?, source) =>
          return .ok (l?, { s with
            sources := s.sources.map fun x => if x.1 = number then (number, source) else x })

/-- Put the lines of inputs side by side. -/
def pasteRows (c : Call) (lineEnd : Char) (joints : List Octets) (files : List Octets) :
    Action Nat := do
  let (operands, sources) ← files.foldlM (fun (operands, sources) file => do
    match ← openInput file with
    | .error e => c.die 1 (c.shown file ++ text ": " ++ e.reason)
    | .ok fd =>
        let isNew := sources.all fun (n, _) => n ≠ fd
        return (operands ++ [(file, fd)],
          if isNew then sources ++ [(fd, LineSource.ofInput lineEnd fd)] else sources))
      (([], []) : List (Octets × Nat) × List (Nat × LineSource))
  Action.repeatUntil 1
    (fun ((s, pending, failed) : SideBySide × Pending × Bool) => do
      let (s, columns, failed) ← s.operands.foldlM (fun (s, columns, failed) (file, number) => do
        match ← s.next number with
        | .ok (l?, s) => return (s, columns ++ [l?], failed)
        | .error e =>
            c.warn (c.shown file ++ text ": " ++ e.reason)
            let s := { s with sources := s.sources.filter (·.1 != number) }
            return (s, columns ++ [none], true))
          ((s, [], failed) : SideBySide × List (Option Octets) × Bool)
      if columns.all (·.isNone) then
        let _ ← pending.flush c
        return .inr (if failed then 1 else 0)
      else
        let pending := pending.add (sideBySide joints (columns.map (·.getD [])) ++ [lineEnd])
        return .inl (s, ← pending.settle c, failed)) Action.rounds
    (⟨operands, sources⟩, .none, false)

/-- Put the lines of inputs side by side. -/
def paste : Utility := fun c =>
  withOptions 1 "d:sz"
    [("delimiters", 'd', .needed), ("serial", 's', .none), ("zero-terminated", 'z', .none)] c
    fun p => do
    let spelled := (p.value? 'd').getD ['\t']
    let lineEnd := if p.has 'z' then Octets.nul else '\n'
    match joints? (if spelled = [] then text "\\0" else spelled) with
    | none =>
        c.die 1 (text "delimiter list ends with an unescaped backslash: " ++ spelled)
    | some joints =>
        if p.has 's' then
          (inputsOr p.rest).foldlM (fun status file => do
            match ← openInput file with
            | .error e =>
                c.warn (c.shown file ++ text ": " ++ e.reason)
                return 1
            | .ok fd =>
                let fault? ← pasteSerially c lineEnd joints fd
                closeInput fd
                match fault? with
                | some e =>
                    c.warn (c.shown file ++ text ": " ++ e.reason)
                    return 1
                | none => return status) 0
        else pasteRows c lineEnd joints (inputsOr p.rest)

end SkipAudit.Utility
