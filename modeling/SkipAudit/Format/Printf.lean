/-
Formats: text with directives that take one argument after the other.

A format is used again as long as there are arguments that it uses up.  What is wrong with an
argument is said and changes the status; what is wrong with the format ends the output.
-/
import SkipAudit.Format.Directive
import SkipAudit.Format.Escape
import SkipAudit.Text.Quoting

namespace SkipAudit.Format

/-- What is wrong with an argument. -/
inductive Warning where
  | notNumeric (arg : Octets)
  | notWhollyNumeric (arg : Octets)
  | outOfRange (arg : Octets)
  /-- Something stands behind a character that is meant as a number. -/
  | moreThanCharacter (rest : Octets)
deriving DecidableEq, Repr

/-- What is wrong with a format. -/
inductive Fault where
  | badDirective (directive : Octets)
  | noLetter
  | badEscape (f : Escape.Fault)
  | badWidth (arg : Octets)
  | badPrecision (arg : Octets)
deriving DecidableEq, Repr

/-- Something that printing brings forth. -/
inductive Part where
  | out (t : Octets)
  | warning (w : Warning)
deriving DecidableEq, Repr

/-- What is written so far. -/
structure Printing where
  /-- The newest part first. -/
  parts : List Part
  args : List Octets
  fault? : Option Fault
  /-- An escape has ended the output. -/
  isStopped : Bool

/-- The format of numbers with a point. -/
def floatsOf : Escape.Dialect → FloatFormat
  | .shell => .double
  | _ => .extended

/-- How bytes are read as characters. -/
def encodingOf : Escape.Dialect → Encoding
  | .program e => e
  | _ => .bytes

namespace Printing

/-- The printing with one more part. -/
def add (p : Printing) (t : Octets) : Printing := { p with parts := .out t :: p.parts }

/-- The next argument, if there is one. -/
def take (p : Printing) : Option Octets × Printing :=
  match p.args with
  | [] => (none, p)
  | a :: rest => (some a, { p with args := rest })

/-- Warn of an argument. -/
def warn (p : Printing) (w : Warning) : Printing := { p with parts := .warning w :: p.parts }

/-- End because of the format. -/
def fail (p : Printing) (f : Fault) : Printing := { p with fault? := some f }

/-- The warnings, in order. -/
def warnings (p : Printing) : List Warning :=
  p.parts.reverse.filterMap fun
    | .warning w => some w
    | .out _ => none

/-- The text that is printed. -/
def output (p : Printing) : Octets :=
  p.parts.reverse.flatMap fun
    | .out t => t
    | .warning _ => []

/-- Warn of what stands behind the number of an argument, if anything does. -/
def check (p : Printing) (arg : Octets) (rest? : Option Octets) (inRange : Bool) : Printing :=
  match rest? with
  | none => if arg = [] then p else p.warn (.notNumeric arg)
  | some rest =>
      if !inRange then p.warn (.outOfRange arg)
      else if rest = [] then p else p.warn (.notWhollyNumeric arg)

/-- The number of the character at the beginning of an argument, behind a quotation mark. -/
def characterNumber (d : Escape.Dialect) (arg : Octets) (p : Printing) : Nat × Printing :=
  match d with
  | .shell => ((arg.head?.map Char.toNat).getD 0, p)
  | _ =>
      let e := encodingOf d
      let cs := e.decode arg
      let (n, rest) := match cs with
        | c :: _ =>
            if e.isStray c then ((arg.head?.map Char.toNat).getD 0, arg.drop 1)
            else (c.toNat, arg.drop (e.encodeChar c).length)
        | [] => (0, [])
      (n, if rest = [] then p else p.warn (.moreThanCharacter rest))

/-- The next argument as an integer between two bounds. -/
def takeInteger (d : Escape.Dialect) (least greatest : Int) (p : Printing) : Int × Printing :=
  match p.take with
  | (none, p) => (0, p)
  | (some arg, p) =>
      match arg with
      | [] => (0, p)
      | q :: rest =>
          if (q = '\'' || q = '"') && (rest ≠ [] || d = .shell) then
            let (n, p) := characterNumber d rest p
            (n, p)
          else match Signed64.integer arg with
            | none => (0, p.check arg none true)
            | some (n, rest) =>
                let m := max least (min greatest n)
                (m, p.check arg (some rest) (m = n))

/-- The greatest natural number that has room in 64 bits. -/
def greatestNatural : Int := Natural.twoTo 64 - 1

/-- The next argument as a signed integer. -/
def takeSigned (d : Escape.Dialect) (p : Printing) : Int × Printing :=
  p.takeInteger d Signed64.least Signed64.greatest

/-- The next argument as a natural number; a negative one counts down from the greatest. -/
def takeNatural (d : Escape.Dialect) (p : Printing) : Nat × Printing :=
  let (n, p) := p.takeInteger d (-greatestNatural) greatestNatural
  (Signed64.bits n, p)

/-- The next argument as a number with a point. -/
def takeFloating (d : Escape.Dialect) (p : Printing) : Floating × Printing :=
  match p.take with
  | (none, p) => (.zero, p)
  | (some arg, p) =>
      let isCharacter : Bool := match arg with
        | q :: rest => (q = '\'' || q = '"') && (rest ≠ [] || d = .shell)
        | [] => false
      if isCharacter then
        let (n, p) := characterNumber d (arg.drop 1) p
        (.finite false n 0, p)
      else match Floating.read? (floatsOf d) arg with
        | none => (.zero, p.check arg none true)
        | some r => (r.value, p.check arg (some r.rest) !r.isOutOfRange)

end Printing

/-! ## Directives -/

/-- A field of a directive: its size, if it has any, and whether an argument told that. -/
structure Field where
  size? : Option Int
  argument? : Option Octets

/-- A number in a directive: digits, or a star that takes an argument. -/
def number (d : Escape.Dialect) (t : Octets) (p : Printing) : Field × Octets × Printing :=
  match t with
  | '*' :: rest =>
      let (n, after) := p.takeSigned d
      (⟨some n, p.args.head?⟩, rest, after)
  | _ =>
      let (v, n, rest) := Signed64.digits 10 0 t
      (⟨if n = 0 then none else some v, none⟩, rest, p)

/-- Write an argument by a directive. -/
def onArgument (d : Escape.Dialect) (f : Directive) (letter : Char) (p : Printing) : Printing :=
  match letter with
  | 'b' =>
      let (arg?, p) := p.take
      let (t, ending?) := Escape.expand d (arg?.getD [])
      let p := p.add (f.onText t)
      match ending? with
      | none => p
      | some .stop => { p with isStopped := true }
      | some (.fault e) => p.fail (.badEscape e)
  | 'q' =>
      let (arg?, p) := p.take
      match arg? with
      | some arg => p.add (Quoting.shellEscape.apply (encodingOf d) [] arg)
      | none => p
  | 's' =>
      let (arg?, p) := p.take
      p.add (f.onText (arg?.getD []))
  | 'c' =>
      let (arg?, p) := p.take
      p.add (f.placed false [] [((arg?.getD []).head?).getD '\x00'])
  | 'd' | 'i' =>
      let (n, p) := p.takeSigned d
      p.add (f.onInteger n)
  | 'o' | 'u' | 'x' | 'X' =>
      let (n, p) := p.takeNatural d
      p.add (f.onNatural letter n)
  | _ =>
      let (x, p) := p.takeFloating d
      p.add (f.onFloating (floatsOf d) letter x)

/-- The letters that may end a directive with some flags. -/
def allows (d : Escape.Dialect) (flags : List Char) (isPlain hasPrecision : Bool) (c : Char) :
    Bool :=
  match d with
  | .shell => "bscdiouxXaAeEfFgG".contains c
  | _ =>
      let excluded := flags.flatMap fun
        | '\'' | 'I' => "aAceEosxX".toList
        | '#' => "cdisu".toList
        | '0' => "cs".toList
        | _ => []
      if c = 'b' || c = 'q' then isPlain
      else "scdiouxXaAeEfFgG".contains c && !excluded.contains c && !(hasPrecision && c = 'c')

/-- The widest field, and the longest precision. -/
def widest : Int := Natural.twoTo 31 - 1

/-- A size that is out of bounds. -/
def Field.isWild (f : Field) : Bool :=
  match f.size?, f.argument? with
  | some n, some _ => widest < n || n < -widest - 1
  | _, _ => false

/-- Write what a percent sign begins: the printing, and the rest of the format. -/
def directive (d : Escape.Dialect) (t : Octets) (p : Printing) : Printing × Octets :=
  let flagLetters := if d = .shell then "-+ 0#" else "-+ 0#'I"
  let flags := t.takeWhile fun c => flagLetters.contains c
  let afterFlags := t.drop flags.length
  let (width, rest, p) := number d afterFlags p
  let (precision?, rest, p) : Option Field × Octets × Printing := match rest with
    | '.' :: rest =>
        let (f, rest, p) := number d rest p
        (some f, rest, p)
    | rest => (none, rest, p)
  let rest := if d = .shell then rest else rest.dropWhile fun c => "lLhjtz".contains c
  if d ≠ .shell && width.isWild then (p.fail (.badWidth (width.argument?.getD [])), [])
  else if d ≠ .shell && (precision?.map Field.isWild).getD false then
    (p.fail (.badPrecision ((precision?.bind (·.argument?)).getD [])), [])
  else
    let size := width.size?.getD 0
    let flags' := if size < 0 then '-' :: flags else flags
    let precision := (precision?.map fun f => f.size?.getD 0).bind fun n =>
      if n < 0 then none else some n.toNat
    let isPlain := rest.length = t.length
    match rest with
    | [] =>
        (p.fail (if d = .shell then .noLetter else .badDirective ('%' :: t)), [])
    | c :: more =>
        let spelling := '%' :: t.take (t.length - more.length)
        if allows d flags isPlain precision?.isSome c then
          (onArgument d ⟨flags', size.natAbs, precision⟩ c p, more)
        else (p.fail (.badDirective spelling), more)

/-- Go once through a format; the number bounds its length. -/
def once (d : Escape.Dialect) : Nat → Octets → Printing → Printing
  | 0, _, p => p
  | _, [], p => p
  | n + 1, '\\' :: t, p =>
      match Escape.inFormat d t with
      | .char c rest => once d n rest (p.add [c])
      | .chars cs rest => once d n rest (p.add cs)
      | .both c rest => once d n rest (p.add ['\\', c])
      | .stop => { p with isStopped := true }
      | .none => once d n t (p.add ['\\'])
      | .noDigits => p.fail (.badEscape .noDigits)
      | .noCharacter l k m => p.fail (.badEscape (.noCharacter l k m))
  | n + 1, '%' :: '%' :: t, p => once d n t (p.add ['%'])
  | n + 1, '%' :: t, p =>
      let (p, rest) := directive d t p
      if p.isStopped || p.fault?.isSome then p else once d n rest p
  | n + 1, c :: t, p => once d n t (p.add [c])

/-- Use a format as often as it takes; the number bounds how often. -/
def all (d : Escape.Dialect) (format : Octets) : Nat → Printing → Printing
  | 0, p => p
  | n + 1, p =>
      let left := p.args.length
      let p := once d format.length format p
      if p.isStopped || p.fault?.isSome || p.args = [] || p.args.length = left then p
      else all d format n p

/-- What is printed with a format and arguments. -/
def print (d : Escape.Dialect) (format : Octets) (args : List Octets) : Printing :=
  all d format (args.length + 1) ⟨[], args, none, false⟩

end SkipAudit.Format
