/-
The program that writes numbers from a first to a last one.

A row of whole numbers is written exactly.  Every other row is calculated with numbers that have
a binary point; how many places are shown is up to how the numbers are spelled.
-/
import SkipAudit.Format.Directive
import SkipAudit.Utility.Options

namespace SkipAudit.Utility

namespace Series

/-- The format in which rows are calculated. -/
def format : FloatFormat := .extended

/-! ## Numbers as they are spelled -/

/-- A number as it is spelled. -/
structure Spelled where
  value : Floating
  /-- How many characters it takes up in base ten. -/
  width : Int
  /-- How many places it has behind the point; none if that cannot be told. -/
  places? : Option Nat
deriving Repr

/-- The character belongs to a text. -/
def holds (t : Octets) (c : Char) : Bool := t.contains c

/-- How a number in base ten takes up room: its width, and its places. -/
def room (t : Octets) : Int × Nat :=
  let (front, fraction?) : Octets × Option Octets := match t.span (· != '.') with
    | (front, _ :: back) => (front, some back)
    | (front, []) => (front, none)
  let places := match fraction? with
    | some back => (back.takeWhile fun c => c != 'e' && c != 'E').length
    | none => 0
  let hasDigit := (front.getLast?.map Char.isDigit).getD false
  let width : Int := t.length + (match fraction? with
    | none => 0
    | some _ => if places = 0 then -1 else if hasDigit then 0 else 1)
  match (t.findIdx? (· == 'e')).or (t.findIdx? (· == 'E')) with
  | none => (width, places)
  | some i =>
      let k := (Floating.exponent 'e' (t.drop i)).1
      let width := width - (t.length - i : Nat)
      let left : Nat := if k < 0 then places + k.natAbs else places - k.natAbs
      if k < 0 then
        let opened : Int := if fraction?.isNone || places = 0 then 1 else 0
        (width + opened + k.natAbs, left)
      else
        let closed : Int := if fraction?.isSome && left = 0 && places ≠ 0 then 1 else 0
        (width - closed + ((k.natAbs - min places k.natAbs : Nat) : Int), left)

/-- Read a number, or end. -/
def scan (c : Call) (t : Octets) : Action Spelled := do
  match Floating.read? format t with
  | some r =>
      let isTooLarge : Bool := match r.value with
        | .infinite _ => r.isOutOfRange
        | _ => false
      if r.rest ≠ [] || isTooLarge then refuse
      else
        let u := t.dropWhile fun x => Signed64.isSpace x || x = '+'
        let isPlain := !u.any (fun x => "xX".contains x)
        match r.value with
        | .notANumber _ =>
            c.misuse 1 (text "invalid " ++ c.quote (text "not-a-number") ++ text " argument: " ++
              c.quote t)
        | .infinite _ => return ⟨r.value, 0, if holds u '.' || holds u 'p' then none else some 0⟩
        | .finite .. =>
            if isPlain then
              let (width, places) := room u
              return ⟨r.value, width, some places⟩
            else return ⟨r.value, 0, if holds u '.' || holds u 'p' then none else some 0⟩
  | none => refuse
where
  /-- Complain of the number. -/
  refuse : Action Spelled := c.misuse 1 (text "invalid floating point argument: " ++ c.quote t)

/-- The number as an integer, if it is one. -/
def Spelled.integer? (s : Spelled) : Option Int :=
  match s.value, s.places? with
  | .finite isNegative _ _, some 0 =>
      let (num, den) := s.value.ratio
      if num % den = 0 then
        let n : Int := (num / den : Nat)
        some (if isNegative then -n else n)
      else none
  | _, _ => none

/-! ## Formats -/

/-- How each number is written. -/
structure Shape where
  front : Octets
  directive : Format.Directive
  letter : Char
  back : Octets

/-- A number as it is written. -/
def Shape.write (s : Shape) (x : Floating) : Octets :=
  s.front ++ s.directive.onFloating format s.letter x ++ s.back

/-- The text up to a directive, and what follows its percent sign. -/
def upToDirective : Nat → Octets → Octets × Option Octets
  | 0, _ => ([], none)
  | _, [] => ([], none)
  | n + 1, '%' :: '%' :: t =>
      let (front, rest?) := upToDirective n t
      ('%' :: front, rest?)
  | _, '%' :: t => ([], some t)
  | n + 1, c :: t =>
      let (front, rest?) := upToDirective n t
      (c :: front, rest?)

/-- Read the format of numbers, or end. -/
def shape (c : Call) (t : Octets) : Action Shape := do
  let refuse (what : String) : Action Shape :=
    c.die 1 (text "format " ++ c.quote t ++ text what)
  match upToDirective (t.length + 1) t with
  | (_, none) => refuse " has no % directive"
  | (front, some u) =>
      let flags := u.takeWhile fun x => "-+#0 '".contains x
      let (width, _, rest) := Signed64.digits 10 0 (u.drop flags.length)
      let (precision?, rest) : Option Nat × Octets := match rest with
        | '.' :: rest =>
            let (n, _, rest) := Signed64.digits 10 0 rest
            (some n, rest)
        | rest => (none, rest)
      match (if rest.head? = some 'L' then rest.drop 1 else rest) with
      | [] => refuse " ends in %"
      | letter :: rest =>
          if "AaEeFfGg".contains letter = false then
            c.die 1 (text "format " ++ c.quote t ++ text " has unknown %" ++ letter ::
              text " directive")
          else match upToDirective (rest.length + 1) rest with
            | (back, none) => return ⟨front, ⟨flags, width, precision?⟩, letter, back⟩
            | _ => refuse " has too many % directives"

/-- How numbers are written that have so many places. -/
def plainShape (flags : List Char) (width : Nat) (places : Nat) : Shape :=
  ⟨[], ⟨flags, width, some places⟩, 'f', []⟩

/-- How the numbers of a row are written if nothing is said of that. -/
def usualShape (hasEqualWidth : Bool) (first step last : Spelled) : Shape :=
  match first.places?, step.places?, last.places? with
  | some p, some q, some r =>
      let places := max p q
      if hasEqualWidth then
        let a := first.width + (places - p : Nat) + (if p = 0 && 0 < places then 1 else 0)
        let b := last.width + ((places : Int) - r) - (if 0 < r && places = 0 then 1 else 0) +
          (if r = 0 && 0 < places then 1 else 0)
        plainShape ['0'] (max a b).toNat places
      else plainShape [] 0 places
  | _, _, _ => ⟨[], ⟨[], 0, none⟩, 'g', []⟩

/-! ## Rows -/

/-- How many numbers are written at once. -/
def block : Nat := 1000

/-- The texts of some numbers from an integer on, each with what stands behind it. -/
def integerRun (step : Int) (separator : Octets) : Nat → Int → List Octets
  | 0, _ => []
  | n + 1, x => (Text.ofInt x ++ separator) :: integerRun step separator n (x + step)

/-- Write integers, up to a last one if there is one. -/
def writeIntegers (c : Call) (separator : Octets) (first step : Int) (last? : Option Int) :
    Action Unit := do
  let count? : Option Nat := last?.map fun last =>
    let span : Int := if step < 0 then first - last else last - first
    if span < 0 then 0 else (span / (step.natAbs : Int)).toNat + 1
  Action.repeatUntil () (fun (done : Nat) => do
    let here : Nat := match count? with
      | some n => min block (n - done)
      | none => block
    if here = 0 then return .inr ()
    else
      let parts := integerRun step separator here (first + step * (done : Int))
      let isLast : Bool := count? = some (done + here)
      say c (if isLast then parts.dropLast.flatten ++
          ((parts.getLast?.getD []).take ((parts.getLast?.getD []).length - separator.length)) ++
          ['\n']
        else parts.flatten)
      return .inl (done + here)) Action.rounds 0

/-- A number lies beyond the last one of its row. -/
def isBeyond (step last x : Floating) : Bool :=
  if step.isNegative then Floating.compare x last = .lt else Floating.compare last x = .lt

/-- The numbers of a row, beginning with the one that has a number in it; the number bounds how
many, and the last part says whether the row has ended. -/
def run (s : Shape) (separator : Octets) (first step last : Floating) :
    Nat → Nat → Floating → List Octets × Floating × Bool
  | 0, _, x => ([], x, false)
  | n + 1, i, x =>
      let here := s.write x
      let next := Floating.add format first (Floating.mul format (Floating.ofNat format i) step)
      if isBeyond step last next then
        let shown := s.write next
        let bare := (shown.take (shown.length - s.back.length)).drop s.front.length
        let isLast : Bool := match Floating.read? format bare with
          | some r => r.rest = [] && Floating.compare r.value last = .eq
          | none => false
        if isLast && here ≠ shown then ([here ++ separator, shown ++ ['\n']], next, true)
        else ([here ++ ['\n']], next, true)
      else
        let (more, x, ended) := run s separator first step last n (i + 1) next
        ((here ++ separator) :: more, x, ended)

/-- Write numbers with a point. -/
def writeNumbers (c : Call) (s : Shape) (separator : Octets) (first step last : Floating) :
    Action Unit := do
  if isBeyond step last first then return ()
  else
    Action.repeatUntil () (fun ((i, x) : Nat × Floating) => do
      let (parts, x, ended) := run s separator first step last block i x
      say c parts.flatten
      return if ended then .inr () else .inl (i + block, x)) Action.rounds (1, first)

/-- The arguments with those that look like negative numbers marked as no options.  `isValue`: the
first one belongs to the option before it. -/
def withNumbers (isValue : Bool) : List Octets → List Octets
  | [] => []
  | a :: args =>
      if isValue then a :: withNumbers false args
      else match a with
        | ['-', '-'] => a :: args
        | '-' :: c :: _ =>
            if c.isDigit || c = '.' then ['-', '-'] :: a :: args
            else a :: withNumbers (a = ['-', 's'] || a = ['-', 'f']) args
        | _ => a :: args

/-- The first number of a row, the step and the last one. -/
def bounds (c : Call) (args : List Octets) : Action (Spelled × Spelled × Spelled) := do
  let one : Spelled := ⟨.finite false 1 0, 1, some 0⟩
  match args with
  | [b] => return (one, one, ← scan c b)
  | [a, b] => return (← scan c a, one, ← scan c b)
  | a :: s :: b :: _ =>
      let first ← scan c a
      let step ← scan c s
      if step.value.isZero then
        c.misuse 1 (text "invalid Zero increment value: " ++ c.quote s)
      else return (first, step, ← scan c b)
  | [] => return (one, one, one)

/-- The integers between which a row goes, if its arguments are digits alone. -/
def digitBounds? (args : List Octets) : Option (Int × Int × Int) := do
  let ns ← args.mapM fun a => (Text.toNat? a).map Int.ofNat
  match ns with
  | [b] => some (1, 1, b)
  | [a, b] => some (a, 1, b)
  | [a, s, b] => if s = 0 then none else some (a, s, b)
  | _ => none

end Series

open Series in
/-- Write numbers from a first to a last one. -/
def seq : Utility := fun c =>
  withLeadingOptions 1 "f:s:w"
    [("format", 'f', .needed), ("separator", 's', .needed), ("equal-width", 'w', .none)]
    { c with args := withNumbers false c.args } fun p => do
    let separator := (p.value? 's').getD ['\n']
    match p.rest with
    | [] => c.misused 1 (text "missing operand")
    | _ :: _ :: _ :: x :: _ => c.misused 1 (extraText ++ c.quote x)
    | args =>
        let shape? ← match p.value? 'f' with
          | some t => some <$> shape c t
          | none => pure none
        if shape?.isSome && p.has 'w' then
          c.misused 1 (text
            "format string may not be specified when printing equal width strings")
        else
          let isPlain := shape?.isNone && !p.has 'w'
          match digitBounds? args, isPlain with
          | some (a, s, b), true =>
              writeIntegers c separator a s (some b)
              return 0
          | _, _ =>
              let (first, step, last) ← bounds c args
              match isPlain, first.integer?, step.integer?, last.integer?, last.value with
              | true, some a, some s, some b, _ =>
                  writeIntegers c separator a s (some b)
              | true, some a, some s, none, .infinite isNegative =>
                  if isNegative = decide (s < 0) then writeIntegers c separator a s none
              | _, _, _, _, _ =>
                  writeNumbers c (shape?.getD (usualShape (p.has 'w') first step last)) separator
                    first.value step.value last.value
              return 0
where
  /-- What is said of an operand too many. -/
  extraText : Octets := text "extra operand "

end SkipAudit.Utility
