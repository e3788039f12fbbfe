/-
The program that splits a text into files at lines that are told by their number or by an
expression that they match.
-/
import SkipAudit.Format.Printf
import SkipAudit.Regex.Parser
import SkipAudit.Utility.Deeds
import SkipAudit.Utility.Parts

namespace SkipAudit.Utility

namespace Sections

/-! ## Where to split -/

/-- How often something is done again. -/
inductive Again where
  | times (n : Nat)
  | always

/-- A place to split at. -/
inductive Place where
  | line (n : Nat)
  /-- A line that matches, and how far from it; `skips`: what is in front of it is left out. -/
  | match (r : Regex) (skips : Bool) (offset : Int)

/-- A place with what was written for it. -/
structure Mark where
  written : Octets
  place : Place
  again : Again

/-- What is wrong with a place, as it is told: with a warning in front of it. -/
abbrev Reading (α : Type) := Except Octets α

/-- A whole number with a sign or without. -/
def integer? (t : Octets) : Option Int :=
  match t with
  | '-' :: u => (Text.toNat? u).map fun n => -(n : Int)
  | '+' :: u => (Text.toNat? u).map Int.ofNat
  | u => (Text.toNat? u).map Int.ofNat

/-- Read an expression between two equal characters, with a distance behind it. -/
def matching (c : Call) (t : Octets) : Reading Place :=
  match t with
  | [] => .error (c.quote t ++ text ": invalid pattern")
  | delimiter :: u =>
      match u.reverse.span (· != delimiter) with
      | (_, []) =>
          .error (t ++ text ": closing delimiter '" ++ delimiter :: text "' missing")
      | (after, _ :: inside) =>
          match Regex.parse (.basic c.encoding) (c.encoding.decode inside.reverse) with
          | .error e => .error (c.quote t ++ text ": invalid regular expression: " ++ e.message)
          | .ok r =>
              let after := after.reverse
              if after = [] then .ok (.match r (delimiter = '%') 0)
              else match integer? after with
                | some n => .ok (.match r (delimiter = '%') n)
                | none => .error (c.quote t ++ text ": integer expected after delimiter")

/-- Read how often something is done again. -/
def again (c : Call) (t : Octets) : Reading Again :=
  if t.getLast? ≠ some '\x7d' then
    .error (c.quote t ++ text ": '\x7d' is required in repeat count")
  else
    let inside := (t.drop 1).dropLast
    if inside = ['*'] then .ok .always
    else match count "" inside with
      | .ok n => .ok (.times n)
      | .error _ =>
          .error (c.quote t.dropLast ++ text "\x7d: integer required between '\x7b' and '\x7d'")

/-- Read where to split; `last` is the number of the line before, and the warnings come out
too. -/
def marks (c : Call) (last : Nat) : List Octets → List Octets × Reading (List Mark)
  | [] => ([], .ok [])
  | t :: rest =>
      let place : List Octets × Reading (Place × Nat) :=
        if t.head? = some '/' || t.head? = some '%' then
          ([], (matching c t).map (·, last))
        else match count "" t with
          | .error _ => ([], .error (c.quote t ++ text ": invalid pattern"))
          | .ok n =>
              if n = 0 then
                ([], .error (t ++ text ": line number must be greater than zero"))
              else if n < last then
                ([], .error (text "line number " ++ c.quote t ++
                  text " is smaller than preceding line number, " ++ Text.ofNat last))
              else
                (if n = last then [text "warning: line number " ++ c.quote t ++
                  text " is the same as preceding line number"] else [], .ok (.line n, n))
      match place with
      | (warnings, .error e) => (warnings, .error e)
      | (warnings, .ok (place, last)) =>
          match rest with
          | ('\x7b' :: u) :: rest =>
              match again c ('\x7b' :: u) with
              | .error e => (warnings, .error e)
              | .ok k =>
                  let (more, r) := marks c last rest
                  (warnings ++ more, r.map (⟨t, place, k⟩ :: ·))
          | rest =>
              let (more, r) := marks c last rest
              (warnings ++ more, r.map (⟨t, place, .times 0⟩ :: ·))

/-! ## Splitting -/

/-- How far a text has been split. -/
structure State where
  /-- The lines that are left, and the number of the first of them. -/
  lines : List Octets
  first : Nat
  /-- The number of the last line that was looked at. -/
  current : Nat
  /-- The sections that are whole, the last one first. -/
  done : List Octets
  /-- The section that is being written, the last line first. -/
  begun? : Option (List Octets)

/-- An end before the time. -/
inductive Stop where
  /-- All is well. -/
  | fine
  /-- A complaint that is told before anything else is, or in its place. -/
  | fault (t : Octets) (comesFirst : Bool)

/-- A step of the splitting. -/
abbrev Step := State → Except (Stop × State) State

namespace State

/-- Begin a section. -/
def begin (s : State) : State := { s with begun? := some [] }

/-- Finish the section. -/
def finish (s : State) : State :=
  match s.begun? with
  | some ls => { s with done := ls.reverse.flatten :: s.done, begun? := none }
  | none => s

/-- Write a line. -/
def save (l : Octets) (s : State) : State := { s with begun? := s.begun?.map (l :: ·) }

/-- Take a line. -/
def take (s : State) : Option Octets × State :=
  match s.lines with
  | [] => (none, s)
  | l :: ls =>
      let current := max s.current s.first
      (some l, { s with lines := ls, first := s.first + 1, current })

/-- Write all lines that are left. -/
def saveRest (s : State) : State :=
  s.lines.foldl (fun s l => (s.take.2).save l) s

/-- The line with a number, if it is left. -/
def line? (s : State) (n : Nat) : Option Octets :=
  if n < s.first then none else s.lines[n - s.first]?

/-- Take so many lines and write them; none if there are not so many. -/
def saveLines (writes : Bool) : Nat → State → Option State
  | 0, s => some s
  | n + 1, s =>
      match s.take with
      | (some l, s) => saveLines writes n (if writes then s.save l else s)
      | (none, _) => none

/-- As many of the lines as there are. -/
def saveAvailable (n : Nat) (s : State) : State :=
  (s.saveLines true (min n s.lines.length)).getD s

end State

/-- What stands behind a complaint about something that is done again. -/
def repetition (n : Nat) : Octets :=
  if n = 0 then [] else text " on repetition " ++ Text.ofNat n

/-- Split in front of a line. -/
def atLine (c : Call) (suppresses : Bool) (n round : Nat) : Step := fun s =>
  let fault : Stop := .fault (c.quote (Text.ofNat n) ++ text ": line number out of range" ++
    repetition round) true
  let s := s.begin
  let wanted := n * (round + 1) - s.first
  let hasNoMore (s : State) : Bool := (s.line? (s.current + 1)).isNone
  if suppresses && hasNoMore s then .error (fault, s.finish)
  else if s.lines.length < wanted then
    .error (fault, (s.saveAvailable wanted).finish)
  else
    let s := (s.saveAvailable wanted).finish
    let s := if suppresses then s.take.2 else s
    if !suppresses && hasNoMore s then .error (fault, s) else .ok s

/-- Look for a line that matches, from the current one on; lines in front of it are written right
away, if that can be done.  The number bounds how many lines there are. -/
def search (matches' : Octets → Bool) (writes passes : Bool) : Nat → State → Option State × State
  | 0, s => (none, s)
  | fuel + 1, s =>
      let s := { s with current := s.current + 1 }
      match s.line? s.current with
      | none => (none, s)
      | some l =>
          if matches' (Text.dropFinal '\n' l) then (some s, s)
          else if passes then
            let (_, s) := s.take
            search matches' writes passes fuel (if writes then s.save l else s)
          else search matches' writes passes fuel s

/-- Split in front of a line that matches, or at some distance from it. -/
def atMatch (c : Call) (suppresses : Bool) (m : Mark) (r : Regex) (skips : Bool) (offset : Int)
    (round : Nat) : Step := fun s =>
  let s := if skips then s else s.begin
  let occurs (l : Octets) : Bool := r.occursIn (c.encoding.decode l)
  match search occurs (!skips) (0 ≤ offset) (s.lines.length + 1) s with
  | (none, s) =>
      let s := if skips then s else s.saveRest.finish
      match m.again with
      | .always => .error (.fine, s)
      | .times _ =>
          let message := c.quote m.written ++ text ": match not found" ++ repetition round
          .error (.fault message true, s)
  | (some s, _) =>
      let goal : Int := s.current + offset
      let fault : Stop := .fault (c.quote m.written ++ text ": line number out of range") false
      if goal < s.first then .error (fault, s.finish)
      else
        let size := (goal - s.first).toNat
        match s.saveLines (!skips) size with
        | none => .error (fault, (s.saveAvailable size).finish)
        | some s =>
            let s := if skips then s else s.finish
            let s := if 0 < offset then { s with current := goal.toNat } else s
            .ok (if suppresses then s.take.2 else s)

/-- Split at one place, as often as is wanted; the number bounds how often. -/
def atMark (c : Call) (suppresses : Bool) (m : Mark) : Nat → Nat → Step
  | 0, _, s => .ok s
  | fuel + 1, round, s =>
      let isDue := match m.again with
        | .times n => round ≤ n
        | .always => true
      if !isDue then .ok s
      else
        let after := match m.place with
          | .line n => atLine c suppresses n round s
          | .match r skips offset => atMatch c suppresses m r skips offset round s
        match after with
        | .error e => .error e
        | .ok s => atMark c suppresses m fuel (round + 1) s

/-- All sections of a text, and how it ended. -/
def sectionsOf (c : Call) (suppresses : Bool) (ms : List Mark) (t : Octets) : Stop × List Octets :=
  let lines := linesOf t
  let start : State := ⟨lines, 1, 0, [], none⟩
  match ms.foldlM (fun s m => atMark c suppresses m (lines.length + 2) 0 s) start with
  | .error (stop, s) => (stop, s.done.reverse)
  | .ok s => (.fine, s.begin.saveRest.finish.done.reverse)

/-! ## Names -/

/-- What is wrong with the end of a name: exactly one number has to stand in it. -/
def suffixFault (c : Call) : Nat → Bool → Octets → Option Octets
  | 0, hasOne, _ | _, hasOne, [] =>
      if hasOne then none else some (text "missing % conversion specification in suffix")
  | fuel + 1, hasOne, '%' :: '%' :: t => suffixFault c fuel hasOne t
  | fuel + 1, hasOne, '%' :: t =>
      if hasOne then some (text "too many % conversion specifications in suffix")
      else
        let t := t.dropWhile fun x => "-0+ #'".toList.contains x
        let t := t.dropWhile Char.isDigit
        let t := match t with
          | '.' :: t => t.dropWhile Char.isDigit
          | t => t
        match t with
        | [] => some (text "missing conversion specifier in suffix")
        | x :: t =>
            if "diuoxX".toList.contains x then suffixFault c fuel true t
            else if 32 ≤ x.toNat && x.toNat < 127 then
              some (text "invalid conversion specifier in suffix: " ++ [x])
            else
              some (text "invalid conversion specifier in suffix: \\" ++ Quoting.octal x)
  | fuel + 1, hasOne, _ :: t => suffixFault c fuel hasOne t

/-- The name of the file with a number. -/
def nameOf (c : Call) (stem : Octets) (suffix? : Option Octets) (digits i : Nat) : Octets :=
  match suffix? with
  | some f => stem ++ (Format.print (.program c.encoding) f [Text.ofNat i]).output
  | none =>
      let ds := Text.ofNat i
      stem ++ List.replicate (digits - ds.length) '0' ++ ds

end Sections

open Sections in
/-- Split a text into files at some lines. -/
def csplit : Utility := fun c =>
  withOptions 1 "f:b:kn:sqz"
    [("digits", 'n', .needed), ("quiet", 'q', .none), ("silent", 's', .none),
     ("keep-files", 'k', .none), ("elide-empty-files", 'z', .none), ("prefix", 'f', .needed),
     ("suffix-format", 'b', .needed), ("suppress-matched", 'μ', .none)] c fun p => do
    let digits ← match p.value? 'n' with
      | none => pure 2
      | some t =>
          match count "" t with
          | .ok n => pure n
          | .error e => c.die 1 (text "invalid number: " ++ c.quote t ++ countReason e)
    match p.rest with
    | [] => c.misused 1 (text "missing operand")
    | [_] => c.misused 1 (text "missing operand after " ++ c.quote (c.args.getLastD []))
    | file :: places =>
        match (p.value? 'b').bind fun f => suffixFault c (f.length + 1) false f with
        | some t => c.die 1 t
        | none => pure ()
        let fd ← match ← openInput file with
          | .ok fd => pure fd
          | .error e =>
              c.die 1 (text "cannot open " ++ c.quoted file ++ text " for reading: " ++ e.reason)
        let (warnings, marks) := marks c 0 places
        for w in warnings do
          c.warn w
        let ms ← match marks with
          | .error e => c.die 1 e
          | .ok ms => pure ms
        match ← Action.readAll fd with
        | .error e => c.die 1 (text "read error: " ++ e.reason)
        | .ok t =>
            let (stop, sections) := sectionsOf c (p.has 'μ') ms t
            let sections := if p.has 'z' then sections.filter (· ≠ []) else sections
            let sizes := if p.has 's' || p.has 'q' then []
              else sections.flatMap fun t => Text.ofNat t.length ++ ['\n']
            let named := sections.zipIdx.map fun (t, i) =>
              (nameOf c ((p.value? 'f').getD (text "xx")) (p.value? 'b') digits i, t)
            for (name, t) in named do
              match ← Action.openFile name .writing with
              | .error e => c.die 1 (because c name e)
              | .ok fd =>
                  let _ ← Action.write fd t
                  Action.request (.close fd)
            match stop with
            | .fine =>
                say c sizes
                return 0
            | .fault t comesFirst =>
                if !comesFirst && sizes ≠ [] then
                  -- what a section held when it broke off is told behind the complaint
                  let told := (sections.dropLast).flatMap fun t => Text.ofNat t.length ++ ['\n']
                  if told ≠ [] then say c told
                  c.warn t
                  say c (sizes.drop told.length)
                else
                  c.warn t
                  say c sizes
                if !p.has 'k' then
                  for (name, _) in named do
                    let _ ← change (·.unlink ⟨name⟩)
                return 1

end SkipAudit.Utility
