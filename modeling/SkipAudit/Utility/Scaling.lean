/-
The program that writes numbers with the letter of a unit, and reads them so.

Numbers are calculated with a binary point, and each step is rounded as it comes.
-/
import SkipAudit.Format.Directive
import SkipAudit.Utility.Spans

namespace SkipAudit.Utility

namespace Scaling

/-- The format in which numbers are calculated. -/
def format : FloatFormat := .extended

/-- What letters behind numbers stand for. -/
inductive Scale where
  | none
  | auto
  /-- Powers of a thousand. -/
  | thousands
  /-- Powers of 1024. -/
  | binary
  /-- Powers of 1024, with a second letter. -/
  | binaryMarked
deriving DecidableEq

/-- The words for scales. -/
def outputScales : List (String × Scale) :=
  [("none", .none), ("si", .thousands), ("iec", .binary), ("iec-i", .binaryMarked)]

/-- The words for scales of numbers that are read. -/
def inputScales : List (String × Scale) :=
  [("none", .none), ("auto", .auto), ("si", .thousands), ("iec", .binary),
   ("iec-i", .binaryMarked)]

/-- The base of a scale. -/
def Scale.base : Scale → Nat
  | .binary | .binaryMarked => 1024
  | .none | .auto | .thousands => 1000

/-- In which direction numbers are rounded. -/
inductive Rounding where
  | up
  | down
  | fromZero
  | towardsZero
  | nearest
deriving DecidableEq

/-- The words for these. -/
def roundings : List (String × Rounding) :=
  [("up", .up), ("down", .down), ("from-zero", .fromZero), ("towards-zero", .towardsZero),
   ("nearest", .nearest)]

/-- What happens at a number that cannot be read. -/
inductive Strictness where
  | abort
  | fail
  | warn
  | ignore
deriving DecidableEq

/-- The words for these. -/
def strictnesses : List (String × Strictness) :=
  [("abort", .abort), ("fail", .fail), ("warn", .warn), ("ignore", .ignore)]

/-- How numbers are written. -/
structure Shape where
  front : Octets
  back : Octets
  hasZeros : Bool
  width? : Option Int
  places? : Option Nat

/-- All that options say. -/
structure Settings where
  input : Scale
  output : Scale
  inputUnit : Nat
  outputUnit : Nat
  rounding : Rounding
  strictness : Strictness
  /-- The width of a column; negative for a text on its left side. -/
  padding : Int
  suffix : Octets
  delimiter? : Option Char
  spans : List Span
  shape? : Option Shape

/-- The letters of units. -/
def unitLetters : Octets := text "KMGTPEZY"

/-- The letter for a power. -/
def letterOf (power : Nat) : Octets := if power = 0 then [] else (unitLetters[power - 1]?).toList

/-! ## Reading -/

/-- A number that was read: its value, how many places it has, and what stands behind it. -/
structure Reading where
  value : Floating
  places : Nat
  rest : Octets

/-- What is wrong with a number. -/
inductive Fault where
  | tooLarge
  | invalid
  | forbiddenUnit
  | invalidUnit
  | missingMark
deriving DecidableEq

/-- The complaint. -/
def Fault.message (c : Call) (t : Octets) : Fault → Octets
  | .tooLarge => text "value too large to be converted: " ++ c.quote t
  | .invalid => text "invalid number: " ++ c.quote t
  | .forbiddenUnit =>
      text "rejecting suffix in input: " ++ c.quote t ++ text " (consider using --from)"
  | .invalidUnit => text "invalid suffix in input: " ++ c.quote t
  | .missingMark => text "missing 'i' suffix in input: " ++ c.quote t ++ text " (e.g Ki/Mi/Gi)"

/-- How many digits a number may have. -/
def mostDigits : Nat := 27

/-- Times a power of a number. -/
def timesPower (x : Floating) (base : Nat) : Nat → Floating
  | 0 => x
  | n + 1 => Floating.mul format (timesPower x base n) (.ofNat format base)

/-- A power of a number. -/
def powerOf (base power : Nat) : Floating := timesPower (.ofNat format 1) base power

/-- Read a number without a unit. -/
def plain (t : Octets) : Except Fault Reading :=
  let (isNegative, u) := match t with
    | '-' :: u => (true, u)
    | u => (false, u)
  let (n, size, rest) := Signed64.digits 10 0 u
  let signed (x : Floating) : Floating :=
    if isNegative then Floating.mul format x (.finite true 1 0)
    else x
  if mostDigits < (Text.ofNat n).length then .error .tooLarge
  else match rest with
    | '.' :: v =>
        let (m, places, rest) := Signed64.digits 10 0 v
        if places = 0 && v.head? = some '-' then .error .invalid
        else if places = 0 then
          (if size = 0 && v ≠ [] then .error .invalid else .ok ⟨signed (.ofNat format n), 0, rest⟩)
        else
          let fraction := Floating.div format (.ofNat format m) (powerOf 10 places)
          .ok ⟨signed (Floating.add format (.ofNat format n) fraction), places, rest⟩
    | rest => if size = 0 then .error .invalid else .ok ⟨signed (.ofNat format n), 0, rest⟩

/-- A blank inside a line. -/
def isBlank (x : Char) : Bool := x = ' ' || x = '\t'

/-- Read a number with a unit. -/
def scaled (s : Scale) (t : Octets) : Except Fault Reading := do
  let r ← plain t
  let mark (r : Reading) : Except Fault Reading :=
    if s = .binaryMarked then match r.rest with
      | 'i' :: rest => .ok { r with rest }
      | _ => .error .missingMark
    else .ok r
  match r.rest.dropWhile isBlank with
  | [] => if r.rest = [] then mark r else .error .invalidUnit
  | c :: rest =>
      match unitLetters.findIdx? (· == c) with
      | none => .error .invalidUnit
      | some i =>
          if s = .none then .error .forbiddenUnit
          else
            let (base, rest) := match s, rest with
              | .auto, 'i' :: rest => (1024, rest)
              | _, rest => (s.base, rest)
            mark ⟨Floating.mul format r.value (powerOf base (i + 1)), 0, rest⟩

/-! ## Writing -/

/-- A number to the next integer in some direction. -/
def rounded (r : Rounding) (x : Floating) : Floating :=
  let (num, den) := x.ratio
  let below := num / den
  let above := (num + den - 1) / den
  let n := match r with
    | .up => if x.isNegative then below else above
    | .down => if x.isNegative then above else below
    | .fromZero => above
    | .towardsZero => below
    | .nearest => (2 * num + den) / (2 * den)
  let y := Floating.ofNat format n
  if x.isNegative then Floating.mul format y (.finite true 1 0) else y

/-- A number without its sign is below another. -/
def isBelow (x : Floating) (n : Nat) : Bool :=
  let (num, den) := x.ratio
  num < n * den

/-- Divide a number by a base as long as it is not below that; the power comes with it.  The
first number bounds how often. -/
def normalized (base : Nat) : Nat → Floating → Floating × Nat
  | 0, x => (x, 0)
  | n + 1, x =>
      if isBelow x base then (x, 0)
      else
        let (y, k) := normalized base n (Floating.div format x (.ofNat format base))
        (y, k + 1)

/-- More powers than any number has. -/
def manyPowers : Nat := 200

/-- A number with so many places, rounded. -/
def roundedAt (r : Rounding) (places : Nat) (x : Floating) : Floating :=
  Floating.div format (rounded r (Floating.mul format x (powerOf 10 places))) (powerOf 10 places)

/-- A number with so many places, in a field of zeros. -/
def fixedText (zeros places : Nat) (x : Floating) : Octets :=
  (Format.Directive.mk (if zeros = 0 then [] else ['0']) zeros (some places)).onFloating format 'f'
    x

/-- The text of a number. -/
def written (s : Settings) (places : Nat) (x : Floating) : Octets :=
  let zeros := match s.shape? with
    | some h => if h.hasZeros then (h.width?.getD 0).toNat else 0
    | none => 0
  let fixed? := s.shape?.bind (·.places?)
  if s.output = .none then fixedText zeros places (roundedAt s.rounding places x)
  else
    let base := s.output.base
    let (x, power) := normalized base manyPowers x
    let finer := match fixed? with
      | some k => min (power * 3) k
      | none => if isBelow x 10 then 1 else 0
    let x := roundedAt s.rounding finer x
    let (x, power) := if isBelow x base then (x, power)
      else (Floating.div format x (.ofNat format base), power + 1)
    let showsPoint := !x.isZero && isBelow x 10 && 0 < power
    let places := fixed?.getD (if showsPoint then 1 else 0)
    fixedText zeros places x ++ letterOf power ++
      (if s.output = .binaryMarked && 0 < power then ['i'] else [])

/-- A text in a column. -/
def aligned (c : Call) (width : Int) (t : Octets) : Octets :=
  let blanks := List.replicate (width.natAbs - c.encoding.columns t) ' '
  if width < 0 then t ++ blanks else blanks ++ t

/-- The text for a number that was read, or why it cannot be written. -/
def result (c : Call) (s : Settings) (column : Int) (places : Nat) (x : Floating) :
    Except Octets Octets :=
  let places := (s.shape?.bind (·.places?)).getD places
  let digits := (normalized 10 5000 x).2
  let inGeneral : Octets := (Format.Directive.mk [] 0 none).onFloating format 'g' x
  if s.output = .none && 18 < digits + places then
    .error (if places = 0 then
      text "value too large to be printed: '" ++ inGeneral ++ text "' (consider using --to)"
      else text "value/precision too large to be printed: '" ++ inGeneral ++ '/' ::
        Text.ofNat places ++ text "' (consider using --to)")
  else if mostDigits - 1 < digits then
    .error (text "value too large to be printed: '" ++ inGeneral ++
      text "' (cannot handle values > 999Y)")
  else
    let column := match s.shape? with
      | some h => if h.hasZeros then column else h.width?.getD column
      | none => column
    .ok (((s.shape?.map (·.front)).getD []) ++
      aligned c column (written s places x ++ s.suffix) ++ ((s.shape?.map (·.back)).getD []))

/-- What becomes of a field: its text, and a complaint if it stays as it is. -/
def field (c : Call) (s : Settings) (number : Nat) (t : Octets) : Octets × Option Octets :=
  if !inSpans s.spans number then (t, none)
  else
    let bare := if s.suffix ≠ [] && s.suffix.length < t.length then
        (Text.dropEnding? s.suffix t).getD t
      else t
    let u := bare.dropWhile isBlank
    let column : Int :=
      if s.padding = 0 && s.delimiter?.isNone && (u.length < bare.length || 1 < number) then
        c.encoding.columns bare
      else s.padding
    match scaled s.input u with
    | .error e => (t, some (e.message c u))
    | .ok r =>
        if r.rest ≠ [] then
          (t, some (text "invalid suffix in input " ++ c.quote u ++ text ": " ++ c.quote r.rest))
        else
          let x := if s.inputUnit = 1 && s.outputUnit = 1 then r.value
            else Floating.div format (Floating.mul format r.value (.ofNat format s.inputUnit))
              (.ofNat format s.outputUnit)
          match result c s column r.places x with
          | .ok u => (u, none)
          | .error e => (t, some e)

/-- Cut a line at runs of blanks, each of which stays in front of the field behind it. -/
def blankFields (inGap : Bool) : Octets → List Octets
  | [] => [[]]
  | x :: t =>
      let isGap := isBlank x || x = '\n'
      if isGap && !inGap then [] :: blankFields true t
      else match blankFields (inGap && isGap) t with
        | f :: fs => (x :: f) :: fs
        | [] => [[x]]

/-- Write a line with its numbers converted; whether all could be is told. -/
def line (c : Call) (s : Settings) (finish t : Octets) : Action Bool := do
  let fields := match s.delimiter? with
    | some d => Text.cutAt d t
    | none => blankFields true t
  let sep : Octets := [s.delimiter?.getD ' ']
  let (good, _) ← fields.foldlM (fun ((good, number) : Bool × Nat) f => do
    let (u, fault?) := field c s number f
    if number ≠ 1 then say c sep
    match fault? with
    | some e =>
        if s.strictness = .abort then c.die 2 e
        else if s.strictness ≠ .ignore then c.warn e
    | none => pure ()
    say c u
    return (good && fault?.isNone, number + 1)) ((true, 1) : Bool × Nat)
  say c finish
  return good

/-! ## Options -/

/-- The text in front of a directive, and what follows its percent sign. -/
def upToDirective : Nat → Octets → Octets × Option Octets
  | 0, _ => ([], none)
  | _, [] => ([], none)
  | n + 1, '%' :: '%' :: t =>
      let (front, rest?) := upToDirective n t
      ('%' :: '%' :: front, rest?)
  | _, '%' :: t => ([], some t)
  | n + 1, x :: t =>
      let (front, rest?) := upToDirective n t
      (x :: front, rest?)

/-- Read the format of numbers, or end. -/
def shape (c : Call) (t : Octets) : Action Shape := do
  let refuse {α : Type} (what : String) : Action α :=
    c.die 1 (text "format " ++ c.quote t ++ text what)
  match upToDirective (t.length + 1) t with
  | (_, none) => refuse " has no % directive"
  | (front, some u) =>
      let flags := u.takeWhile fun x => " '0".contains x
      let u := u.drop flags.length
      let (isNegative, ds) := match u with
        | '-' :: ds => (true, ds)
        | '+' :: ds => (false, ds)
        | ds => (false, ds)
      let (width, size, rest) := Signed64.digits 10 0 ds
      let rest := if size = 0 then u else rest
      if Natural.twoTo 63 ≤ width then
        c.die 1 (text "invalid format " ++ c.quote t ++ text " (width overflow)")
      let (places?, rest) ← match rest with
        | [] => refuse " ends in %"
        | '.' :: rest =>
            if rest.head?.any fun x => " \t+-".contains x then
              c.die 1 (text "invalid precision in format " ++ c.quote t)
            else
              let (n, _, rest) := Signed64.digits 10 0 rest
              pure (some n, rest)
        | rest => pure (none, rest)
      match rest with
      | 'f' :: rest =>
          match upToDirective (rest.length + 1) rest with
          | (back, none) =>
              let width? : Option Int := if size = 0 || width = 0 then none
                else some (if isNegative then -(width : Int) else width)
              return ⟨front, back, flags.contains '0' && !isNegative && width?.isSome, width?,
                places?⟩
          | _ => refuse " has too many % directives"
      | _ =>
          c.die 1 (text "invalid format " ++ c.quote t ++
            text ", directive must be %[0]['][-][N][.][N]f")

/-- Read the size of a unit, or end. -/
def unitSize (c : Call) (t : Octets) : Action Nat := do
  let (n, size, rest) := Signed64.digits 10 0 t
  let n := if size = 0 then 1 else n
  let factor? := match rest with
    | [] => some 1
    | [x] => (unitLetters.findIdx? (· == x)).map fun i => Nat.pow 1000 (i + 1)
    | [x, 'i'] => (unitLetters.findIdx? (· == x)).map fun i => Nat.pow 1024 (i + 1)
    | _ => none
  match factor? with
  | some k =>
      if n * k = 0 || greatestCount < n * k || (size = 0 && rest = []) then refuse else return n * k
  | none => refuse
where
  /-- Complain of the size. -/
  refuse : Action Nat := c.die 1 (text "invalid unit size: " ++ c.quote t)

/-- Read the settings. -/
def settings (c : Call) (p : Parsed) : Action Settings := do
  let pick {α : Type} [DecidableEq α] (letter : Char) (option : String)
      (table : List (String × α)) (usual : α) : Action α :=
    (p.values letter).foldlM (fun _ w => chosen 1 c option table w) usual
  let input ← pick 'φ' "--from" inputScales .none
  let output ← pick 'τ' "--to" outputScales .none
  let rounding ← pick 'ρ' "--round" roundings .fromZero
  let strictness ← pick 'ι' "--invalid" strictnesses .abort
  let size (letter : Char) : Action Nat := match p.value? letter with
    | some t => unitSize c t
    | none => return 1
  let inputUnit ← size 'Φ'
  let outputUnit ← size 'Τ'
  let padding ← match p.value? 'π' with
    | none => pure 0
    | some t =>
        match Signed64.decimal? t with
        | some n => if n = 0 then c.die 1 (text "invalid padding value " ++ c.quote t) else pure n
        | none => c.die 1 (text "invalid padding value " ++ c.quote t)
  let delimiter? ← match p.value? 'd' with
    | none => pure none
    | some [] => pure (some Octets.nul)
    | some [d] => pure (some d)
    | some _ => c.die 1 (text "the delimiter must be a single character")
  let spans ← match p.values 'λ' with
    | [] => pure [⟨1, some 1⟩]
    | [t] =>
        if t = ['-'] then pure [⟨1, none⟩]
        else match spansOf c Span.ofFields t with
          | .ok spans => pure spans
          | .error e => c.misuse 1 e
    | _ => c.die 1 (text "multiple field specifications")
  let shape? ← match p.value? 'μ' with
    | some t => some <$> shape c t
    | none => pure none
  return ⟨input, output, inputUnit, outputUnit, rounding, strictness, padding,
    (p.value? 'σ').getD [], delimiter?, spans, shape?⟩

end Scaling

open Scaling in
/-- Convert numbers with units and without. -/
def numfmt : Utility := fun c =>
  withOptions 1 "d:z"
    [("from", 'φ', .needed), ("from-unit", 'Φ', .needed), ("to", 'τ', .needed),
     ("to-unit", 'Τ', .needed), ("round", 'ρ', .needed), ("padding", 'π', .needed),
     ("suffix", 'σ', .needed), ("grouping", 'γ', .none), ("delimiter", 'd', .needed),
     ("field", 'λ', .needed), ("debug", 'δ', .none), ("header", 'χ', .optional),
     ("format", 'μ', .needed), ("invalid", 'ι', .needed), ("zero-terminated", 'z', .none)] c
    fun p => do
    let s ← settings c p
    let headers ← match p.value? 'χ' with
      | none => pure 0
      | some [] => pure 1
      | some t =>
          match Text.toNat? t with
          | some (n + 1) => pure (n + 1)
          | _ => c.die 1 (text "invalid header value " ++ c.quote t)
    if p.has 'μ' && p.has 'γ' then
      c.die 1 (text "--grouping cannot be combined with --format")
    if p.has 'γ' && s.output ≠ .none then
      c.die 1 (text "grouping cannot be combined with --to")
    if p.has 'δ' && s.input = .none && s.output = .none && s.inputUnit = 1 && s.outputUnit = 1 &&
        !p.has 'γ' && s.padding = 0 && !p.has 'μ' then
      c.warn (text "no conversion option specified")
    let finish : Octets := if p.has 'z' then [Octets.nul] else ['\n']
    let lineEnd := if p.has 'z' then Octets.nul else '\n'
    let good ←
      if p.rest ≠ [] then
        p.rest.foldlM (fun good t => do return (← line c s finish t) && good) true
      else match ← readInput ['-'] with
        | .error e =>
            c.warn (text "error reading input: " ++ e.reason)
            pure true
        | .ok t =>
            let pieces := Text.cutAt lineEnd t
            let last := pieces.getLastD []
            let whole := pieces.dropLast
            for l in whole.take headers do say c (l ++ finish)
            let good ← (whole.drop headers).foldlM
              (fun good l => do return (← line c s finish l) && good) true
            if last = [] then pure good
            else if whole.length < headers then do
              say c last
              pure good
            else do pure ((← line c s [] last) && good)
    return if good || s.strictness = .warn || s.strictness = .ignore then 0 else 2

end SkipAudit.Utility
