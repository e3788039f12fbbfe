/-
Programs that break lines, and one that numbers them.
-/
import SkipAudit.Regex.Parser
import SkipAudit.Utility.Copying

namespace SkipAudit.Utility

/-! ## Long lines -/

namespace Wrapping

/-- The column behind a character. -/
def columnAfter (countsBytes : Bool) (column : Nat) (ch : Char) : Nat :=
  if countsBytes then column + 1
  else if ch = '\x08' then column - 1
  else if ch = '\r' then 0
  else if ch = '\t' then column + (8 - column % 8)
  else column + 1

/-- Where the wrapping of a line stands. -/
structure State where
  column : Nat
  /-- What stands on the line at hand, the last character first. -/
  line : Octets

/-- A character that begins a new line or belongs to the one at hand.  The number bounds how often
a line is broken in front of it. -/
def place (countsBytes atBlanks : Bool) (width : Nat) :
    Nat → State → Char → Octets → Octets × State
  | 0, s, ch, out => (out, ⟨s.column, ch :: s.line⟩)
  | n + 1, s, ch, out =>
      let column := columnAfter countsBytes s.column ch
      if column ≤ width then (out, ⟨column, ch :: s.line⟩)
      else
        let behind := s.line.takeWhile fun x => x ≠ ' ' && x ≠ '\t'
        let before := s.line.drop behind.length
        if atBlanks && before ≠ [] then
          let column := behind.reverse.foldl (columnAfter countsBytes) 0
          place countsBytes atBlanks width n ⟨column, behind⟩ ch ('\n' :: before ++ out)
        else if s.line = [] then (out, ⟨column, [ch]⟩)
        else place countsBytes atBlanks width n ⟨0, []⟩ ch ('\n' :: s.line ++ out)

/-- Wrap a line. -/
def wrapped (countsBytes atBlanks : Bool) (width : Nat) (l : Octets) : Octets :=
  let content := bare l
  let (out, s) := content.foldl (fun ((out, s) : Octets × State) ch =>
    place countsBytes atBlanks width 3 s ch out) ([], ⟨0, []⟩)
  (s.line ++ out).reverse ++ l.drop content.length

end Wrapping

/-- Wrap long lines. -/
def fold : Utility := fun c =>
  withOptions 1 "bsw:0::1::2::3::4::5::6::7::8::9::"
    [("width", 'w', .needed), ("bytes", 'b', .none), ("spaces", 's', .none)] c fun p => do
    let spelled := (p.options.filter fun o => o.1 = 'w' || o.1.isDigit).map fun (o, t) =>
      if o = 'w' then t else o :: t
    let width ← spelled.foldlM (fun _ t =>
      countOr 1 c "invalid number of columns" "" 1 (greatestCount - 9) t) 80
    (inputsOr p.rest).foldlM (fun status file => do
      match ← openInput file with
      | .error e =>
          c.warn (c.shown file ++ text ": " ++ e.reason)
          return 1
      | .ok fd =>
          let (_, fault?, _) ← passLines c fd (fun () l =>
            ⟨(), Wrapping.wrapped (p.has 'b') (p.has 's') width l, false⟩) ()
          closeInput fd
          match fault? with
          | some e =>
              c.warn (c.shown file ++ text ": " ++ e.reason)
              return 1
          | none => return status) 0

/-! ## Numbers of lines -/

namespace LineNumbers

/-- Which lines of a section are numbered. -/
inductive Style where
  | all
  | filled
  | none
  | matching (r : Regex)

/-- How numbers stand in their field. -/
inductive Shape where
  | left
  | right
  | zeros
deriving DecidableEq

/-- The words for these. -/
def shapes : List (String × Shape) := [("ln", .left), ("rn", .right), ("rz", .zeros)]

/-- The settings. -/
structure Settings where
  header : Style
  body : Style
  footer : Style
  start : Int
  step : Int
  restarts : Bool
  /-- Of so many blank lines behind each other one counts. -/
  blanks : Nat
  separator : Octets
  width : Nat
  shape : Shape
  /-- What marks sections; nothing if there are none. -/
  mark : Octets

/-- Where the numbering stands. -/
structure State where
  next : Int
  style : Style
  blanks : Nat

/-- A number in its field. -/
def Settings.number (s : Settings) (n : Int) : Octets :=
  let t := Text.ofInt n
  let missing := s.width - t.length
  match s.shape with
  | .left => t ++ List.replicate missing ' '
  | .right => List.replicate missing ' ' ++ t
  | .zeros =>
      match t with
      | '-' :: ds => '-' :: List.replicate missing '0' ++ ds
      | ds => List.replicate missing '0' ++ ds

/-- The style of the section that a line begins, if it begins one. -/
def Settings.section? (s : Settings) (line : Octets) : Option Style :=
  let marks (n : Nat) : Octets := (List.replicate n s.mark).flatten
  if s.mark = [] then none
  else if line = marks 3 then some s.header
  else if line = marks 2 then some s.body
  else if line = marks 1 then some s.footer
  else none

/-- A line with its number, if it has one. -/
def Settings.numbered (s : Settings) (encoding : Encoding) (x : State) (l : Octets) :
    Passed State :=
  let line := bare l
  match s.section? line with
  | some style =>
      ⟨{ x with style, next := if s.restarts then s.start else x.next }, ['\n'], false⟩
  | none =>
      let plain (x : State) : Passed State :=
        ⟨x, List.replicate (s.width + s.separator.length) ' ' ++ line ++ ['\n'], false⟩
      let counted (x : State) : Passed State :=
        let numbered := s.number x.next ++ s.separator ++ line ++ ['\n']
        ⟨{ x with next := x.next + s.step }, numbered, false⟩
      match x.style with
      | .none => plain x
      | .filled => if line = [] then plain x else counted x
      | .matching r => if r.occursIn (encoding.decode line) then counted x else plain x
      | .all =>
          if s.blanks ≤ 1 || line ≠ [] then
            counted (if 1 < s.blanks then { x with blanks := 0 } else x)
          else if x.blanks + 1 = s.blanks then counted { x with blanks := 0 }
          else plain { x with blanks := x.blanks + 1 }

/-- Read a style, or complain. -/
def style (c : Call) (part : String) (t : Octets) : Action Style := do
  match t with
  | ['a'] => return .all
  | ['t'] => return .filled
  | ['n'] => return .none
  | 'p' :: pattern =>
      match Regex.parse (.basic c.encoding) (c.encoding.decode pattern) with
      | .ok r => return .matching r
      | .error e => c.die 1 e.message
  | t => c.misuse 1 (text "invalid " ++ text part ++ text " numbering style: " ++ c.quote t)

/-- Read an integer, or end. -/
def integer (c : Call) (what : String) (t : Octets) : Action Int := do
  match Signed64.integer t with
  | some (n, []) =>
      if Signed64.saturate n = n then return n
      else c.die 1 (text what ++ text ": " ++ c.quote t ++
        text ": Value too large for defined data type")
  | _ => c.die 1 (text what ++ text ": " ++ c.quote t)

end LineNumbers

open LineNumbers in
/-- Number lines. -/
def nl : Utility := fun c =>
  withOptions 1 "h:b:f:v:i:pl:s:w:n:d:"
    [("header-numbering", 'h', .needed), ("body-numbering", 'b', .needed),
     ("footer-numbering", 'f', .needed), ("starting-line-number", 'v', .needed),
     ("line-increment", 'i', .needed), ("no-renumber", 'p', .none),
     ("join-blank-lines", 'l', .needed), ("number-separator", 's', .needed),
     ("number-width", 'w', .needed), ("number-format", 'n', .needed),
     ("section-delimiter", 'd', .needed)] c fun p => do
    let s : Settings := ⟨.none, .filled, .none, 1, 1, !p.has 'p', 1, ['\t'], 6, .right, text "\\:"⟩
    let s ← p.options.foldlM (fun (s : Settings) (o, t) => do
      match o with
      | 'h' => return { s with header := ← style c "header" t }
      | 'b' => return { s with body := ← style c "body" t }
      | 'f' => return { s with footer := ← style c "footer" t }
      | 'v' => return { s with start := ← integer c "invalid starting line number" t }
      | 'i' => return { s with step := ← integer c "invalid line number increment" t }
      | 'l' =>
          return { s with
            blanks := ← countOr 1 c "invalid line number of blank lines" "" 1
              (Natural.twoTo 63 - 1) t }
      | 's' => return { s with separator := t }
      | 'w' =>
          return { s with
            width := ← countOr 1 c "invalid line number field width" "" 1
              (Natural.twoTo 31 - 1) t }
      | 'n' =>
          match shapes.find? fun x => text x.1 == t with
          | some (_, shape) => return { s with shape }
          | none => c.misuse 1 (text "invalid line numbering format: " ++ c.quote t)
      | 'd' => return { s with mark := match t with
          | [x] => [x, ':']
          | t => t }
      | _ => return s) s
    let (status, _) ← (inputsOr p.rest).foldlM (fun (status, x) file => do
      match ← openInput file with
      | .error e =>
          c.warn (c.shown file ++ text ": " ++ e.reason)
          return (1, x)
      | .ok fd =>
          let (x, fault?, _) ← passLines c fd (s.numbered c.encoding) x
          closeInput fd
          match fault? with
          | some e =>
              c.warn (c.shown file ++ text ": " ++ e.reason)
              return (1, x)
          | none => return (status, x)) ((0, ⟨s.start, s.body, 0⟩) : Nat × State)
    return status

end SkipAudit.Utility
