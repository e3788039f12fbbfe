/-
Programs that pass on what they read.
-/
import SkipAudit.Utility.Options
import SkipAudit.Utility.Quantity

namespace SkipAudit.Utility

/-! ## One input after the other -/

/-- How lines are changed on the way. -/
structure Changes where
  numbers : Bool
  /-- Only lines that hold something are numbered. -/
  skipsBlank : Bool
  squeezes : Bool
  marksEnds : Bool
  marksTabs : Bool
  marksOthers : Bool
deriving DecidableEq

/-- Nothing is changed. -/
def Changes.none : Changes := ⟨false, false, false, false, false, false⟩

/-- A character that cannot be seen, in characters that can. -/
def visible (ch : Changes) (c : Char) : Octets :=
  let n := c.toNat
  let caret (n : Nat) : Octets := ['^', Char.ofNat ((n + 64) % 128)]
  let low (n : Nat) : Octets := if n < 32 ∨ n = 127 then caret n else [Char.ofNat n]
  if c = '\t' then (if ch.marksTabs then caret n else [c])
  else if !ch.marksOthers || c = '\n' then [c]
  else if n < 128 then low n
  else text "M-" ++ low (n - 128)

/-- A number in a field of some width. -/
def inField (width n : Nat) : Octets :=
  let ds := Text.ofNat n
  List.replicate (width - ds.length) ' ' ++ ds

/-- Where the numbering of lines stands. -/
structure Numbering where
  next : Nat
  /-- The line before has not ended. -/
  isInside : Bool
  blanks : Nat

/-- A line with the changes. -/
def changed (ch : Changes) (s : Numbering) (l : Octets) : Passed Numbering :=
  let ends := l.getLast? = some '\n'
  let isBlank := l = ['\n'] && !s.isInside
  let blanks := if isBlank then s.blanks + 1 else 0
  if ch.squeezes && 1 < blanks then ⟨{ s with blanks }, [], false⟩
  else
    let counts := ch.numbers && !s.isInside && !(ch.skipsBlank && isBlank)
    let front := if counts then inField 6 s.next ++ ['\t'] else []
    let content := bare l
    let body := content.flatMap (visible ch)
    let body := if ch.marksEnds && ends && !ch.marksOthers && content.getLast? = some '\r' then
        body.dropLast ++ text "^M" else body
    let back := if ends then (if ch.marksEnds then ['$', '\n'] else ['\n']) else []
    ⟨⟨if counts then s.next + 1 else s.next, !ends, blanks⟩, front ++ body ++ back, false⟩

/-- Pass on a descriptor block by block; an error in reading is told.  A file is not passed on
to itself. -/
def pour (c : Call) (fd : Nat) : Action (Option Octets) := do
  let target ← Action.request (.inspect 1)
  let source ← Action.request (.inspect fd)
  let isSelf : Bool := match source, target with
    | some (.file a), some (.file b) => a == b
    | _, _ => false
  Action.repeatUntil none (fun () => do
    match ← Action.read fd Action.blockSize with
    | .ok [] => return .inr none
    | .ok bytes =>
        if isSelf then return .inr (some (text "input file is output file"))
        else
          say c bytes
          return .inl ()
    | .error e => return .inr (some e.reason)) Action.rounds ()

/-- Pass on files, one behind the other. -/
def cat : Utility := fun c =>
  withOptions 1 "AbeEnstTuv"
    [("number-nonblank", 'b', .none), ("number", 'n', .none), ("squeeze-blank", 's', .none),
     ("show-nonprinting", 'v', .none), ("show-ends", 'E', .none), ("show-tabs", 'T', .none),
     ("show-all", 'A', .none)] c fun p => do
    if (← Action.request (.inspect 1)).isNone then
      c.die 1 (text "standard output: " ++ FileError.badDescriptor.reason)
    let any (ls : String) := p.options.any fun o => (text ls).contains o.1
    let ch : Changes :=
      ⟨any "nb", any "b", any "s", any "AeE", any "AtT", any "Aetv"⟩
    let (status, _) ← (inputsOr p.rest).foldlM (fun (status, s) file => do
      match ← openInput file with
      | .error e =>
          c.warn (c.shown file ++ text ": " ++ e.reason)
          return (1, s)
      | .ok fd =>
          let (fault?, s) ← if ch = .none then do pure (← pour c fd, s)
            else do
              let (s, e?, _) ← passLines c fd (changed ch) s
              pure (e?.map FileError.reason, s)
          closeInput fd
          match fault? with
          | some t =>
              c.warn (c.shown file ++ text ": " ++ t)
              return (1, s)
          | none => return (status, s)) ((0, ⟨1, false, 0⟩) : Nat × Numbering)
    return status

/-- Do something with the whole of every input, and complain of those that cannot be read. -/
def overTexts (c : Call) (files : List Octets) (f : Octets → Octets) : Action Nat :=
  (inputsOr files).foldlM (fun status file => do
    match ← readInput file with
    | .ok t =>
        say c (f t)
        return status
    | .error e =>
        c.warn (c.shown file ++ text ": " ++ e.reason)
        return 1) 0

/-! ## To several outputs -/

/-- What happens when an output of several takes nothing more. -/
inductive Loss where
  /-- It is left out, with a complaint. -/
  | warns
  /-- Of a pipe nothing is said. -/
  | warnsUnlessPipe
  /-- Everything ends, with a complaint. -/
  | ends
  | endsUnlessPipe
deriving DecidableEq

/-- The words for these. -/
def lossWords : List (String × Loss) :=
  [("warn", .warns), ("warn-nopipe", .warnsUnlessPipe), ("exit", .ends),
   ("exit-nopipe", .endsUnlessPipe)]

/-- Pass on the input to the output and to files. -/
def tee : Utility := fun c =>
  withOptions 1 "aip"
    [("append", 'a', .none), ("ignore-interrupts", 'i', .none), ("output-error", 'p', .optional)] c
    fun p => do
    let loss? ← match p.value? 'p' with
      | none => pure none
      | some [] => pure (some Loss.warnsUnlessPipe)
      | some w => some <$> chosen 1 c "--output-error" lossWords w
    if p.has 'i' then
      let _ ← Action.request (.handle 2 .ignored)
    if loss?.isSome then
      let _ ← Action.request (.handle Signal.ofPipe .ignored)
    let mode : OpenMode := if p.has 'a' then .appending else .writing
    let complain (file : Octets) (e : FileError) : Action Nat := do
      let isPipe := e = .brokenPipe &&
        (loss? = some .warnsUnlessPipe || loss? = some .endsUnlessPipe)
      if !isPipe then c.warn (c.shown file ++ text ": " ++ e.reason)
      if !isPipe && (loss? = some .ends || loss? = some .endsUnlessPipe) then Action.exit 1
      else return if isPipe then 0 else 1
    let (status, outs) ← p.rest.foldlM (fun (status, outs) file => do
      match ← Action.openFile file mode with
      | .ok fd => return (status, outs ++ [(file, fd)])
      | .error e => return (max status (← complain file e), outs))
        ((0, [(text "standard output", 1)]) : Nat × List (Octets × Nat))
    Action.repeatUntil 1 (fun ((status, outs) : Nat × List (Octets × Nat)) => do
      if outs = [] then return .inr status
      match ← Action.read 0 Action.blockSize with
      | .ok [] => return .inr status
      | .ok bytes =>
          let (status, outs) ← outs.foldlM (fun (status, outs) (file, fd) => do
            match ← Action.write fd bytes with
            | .ok () => return (status, outs ++ [(file, fd)])
            | .error e => return (max status (← complain file e), outs))
              ((status, []) : Nat × List (Octets × Nat))
          return .inl (status, outs)
      | .error e =>
          c.warn (text "read error: " ++ e.reason)
          return .inr 1) Action.rounds (status, outs)

end SkipAudit.Utility
