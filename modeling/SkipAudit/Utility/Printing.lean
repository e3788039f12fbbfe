/-
Programs that write their arguments.
-/
import SkipAudit.Format.Printf
import SkipAudit.Utility.Options

namespace SkipAudit.Utility

/-- Come to a status and do nothing else, unless the one argument asks for help. -/
def nothing (status : Nat) : Utility := fun c =>
  match c.args with
  | [a] =>
      if a = text "--help" || a = text "--version" then
        withOptions status "" [] c fun _ => return status
      else return status
  | _ => return status

/-- The options of the program that writes its arguments: whether a newline is left out, and
whether escapes are carried out. -/
def echoOptions : Bool → Bool → List Octets → Bool × Bool × List Octets
  | bare, escapes, ('-' :: c :: cs) :: args =>
      if (c :: cs).all fun x => "neE".contains x then
        echoOptions (bare || (c :: cs).contains 'n')
          ((c :: cs).foldl (fun e x => if x = 'e' then true else if x = 'E' then false else e)
            escapes) args
      else (bare, escapes, ('-' :: c :: cs) :: args)
  | bare, escapes, args => (bare, escapes, args)

/-- Write the arguments. -/
def echo : Utility := fun c => do
  let isStrict := (c.valueOf? "POSIXLY_CORRECT").isSome
  if !isStrict && (c.args = [text "--help"] || c.args = [text "--version"]) then
    withOptions 1 "" [] c fun _ => return 0
  else
    let (bare, escapes, args) :=
      if isStrict && c.args.head? ≠ some (text "-n") then (false, true, c.args)
      else echoOptions false isStrict c.args
    let t := (List.intersperse [' '] args).flatten
    let (t, ending?) := if escapes then Escape.expand .echo t else (t, none)
    say c (if bare || ending?.isSome then t else t ++ ['\n'])
    return 0

/-- The wording of a warning of a format, and whether it counts as a failure. -/
def formatWarning (c : Call) : Format.Warning → Octets × Bool
  | .notNumeric a => (c.quote a ++ text ": expected a numeric value", true)
  | .notWhollyNumeric a => (c.quote a ++ text ": value not completely converted", true)
  | .outOfRange a => (c.quote a ++ text ": Numerical result out of range", true)
  | .moreThanCharacter t =>
      (text "warning: " ++ t ++
        text ": character(s) following character constant have been ignored", false)

/-- The wording of a fault of an escape. -/
def escapeFault : Escape.Fault → Octets
  | .noDigits => text "missing hexadecimal number in escape"
  | .noCharacter letter digits n =>
      let ds := Nat.toDigits 16 n
      text "invalid universal character name \\" ++ letter ::
        (List.replicate (digits - ds.length) '0' ++ ds)

/-- The wording of a fault of a format. -/
def formatFault (c : Call) : Format.Fault → Octets
  | .badDirective t => t ++ text ": invalid conversion specification"
  | .noLetter => text "%: invalid conversion specification"
  | .badEscape e => escapeFault e
  | .badWidth a => text "invalid field width: " ++ c.quote a
  | .badPrecision a => text "invalid precision: " ++ c.quote a

/-- Write what a printing brought forth, each part in its place. -/
def sayParts (c : Call) (p : Format.Printing) : Action Nat :=
  p.parts.reverse.foldlM (fun status part => do
    match part with
    | .out t => do
        say c t
        return status
    | .warning w =>
        let (t, isFailure) := formatWarning c w
        c.warn t
        return if isFailure then 1 else status) 0

/-- Parts that are written together as one, where no warning stands between them. -/
def joinedParts : List Format.Part → List Format.Part
  | [] => []
  | .warning w :: rest => .warning w :: joinedParts rest
  | .out t :: rest =>
      match joinedParts rest with
      | .out u :: more => .out (u ++ t) :: more
      | more => .out t :: more

/-- Write the arguments in a format. -/
def printf : Utility := fun c => do
  let args := match c.args with
    | ['-', '-'] :: args => args
    | args => args
  match c.args with
  | [] => c.misused 1 (text "missing operand")
  | [a] =>
      if a = text "--help" || a = text "--version" then
        withOptions 1 "" [] c fun _ => return 0
      else write c args
  | _ => write c args
where
  /-- Write arguments in the format in front of them. -/
  write (c : Call) (args : List Octets) : Action Nat := do
    match args with
    | [] => c.misused 1 (text "missing operand")
    | format :: args =>
        let p := Format.print (.program c.encoding) format args
        let status ← sayParts c { p with parts := joinedParts p.parts }
        match p.fault? with
        | some fault => c.die 1 (formatFault c fault)
        | none =>
            match p.args with
            | a :: _ =>
                if !p.isStopped then
                  c.warn (text "warning: ignoring excess arguments, starting with " ++ c.quote a)
                return status
            | [] => return status

/-- Write a line over and over. -/
def yes : Utility := fun c =>
  withOptions 1 "" [] c fun p => do
    let line := (List.intersperse [' '] (if p.rest = [] then [['y']] else p.rest)).flatten ++ ['\n']
    let block := (List.replicate (max 1 (8192 / line.length)) line).flatten
    Action.repeatUntil 1 (fun () => do
      match ← Action.write 1 block with
      | .ok () => return .inl ()
      | .error e => do
          c.warn (text "standard output: " ++ e.reason)
          return .inr 1) Action.rounds ()

end SkipAudit.Utility
