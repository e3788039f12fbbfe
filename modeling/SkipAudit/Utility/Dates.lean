/-
The program that shows moments.
-/
import SkipAudit.Calendar.Reading
import SkipAudit.Process.System
import SkipAudit.Utility.Quantity

namespace SkipAudit.Utility

/-- The zone in which moments are shown. -/
def zoneOf (c : Call) : Zone := .ofVariable (c.valueOf? "TZ")

/-- The moment of now. -/
def momentNow (zone : Zone) : Action Moment := do
  let micros ← Action.request .clock
  return .ofNanoseconds zone (System.startSeconds * Moment.perSecond + (micros * 1000 : Nat))

/-- How exactly a moment is shown. -/
inductive Exactness where
  | hours
  | minutes
  | date
  | seconds
  | nanoseconds
deriving DecidableEq

/-- The words for these. -/
def exactnessWords : List (String × Exactness) :=
  [("hours", .hours), ("minutes", .minutes), ("date", .date), ("seconds", .seconds),
   ("ns", .nanoseconds)]

/-- The format with a letter between date and time. -/
def Exactness.joinedFormat : Exactness → String
  | .date => "%Y-%m-%d"
  | .hours => "%Y-%m-%dT%H%:z"
  | .minutes => "%Y-%m-%dT%H:%M%:z"
  | .seconds => "%Y-%m-%dT%H:%M:%S%:z"
  | .nanoseconds => "%Y-%m-%dT%H:%M:%S,%N%:z"

/-- The format with a blank between date and time. -/
def Exactness.spacedFormat : Exactness → String
  | .date => "%Y-%m-%d"
  | .nanoseconds => "%Y-%m-%d %H:%M:%S.%N%:z"
  | _ => "%Y-%m-%d %H:%M:%S%:z"

/-- The usual format. -/
def usualTimeFormat : Octets := text "%a %b %e %H:%M:%S %Z %Y"

/-- The format of letters. -/
def letterTimeFormat : Octets := text "%a, %d %b %Y %H:%M:%S %z"

/-- The format that an option asks for. -/
def formatOfOption? (c : Call) (o : Char × Octets) : Action (Option Octets) := do
  match o with
  | ('R', _) => return some letterTimeFormat
  | ('I', []) => return some (text (Exactness.joinedFormat .date))
  | ('I', w) =>
      return some (text (Exactness.joinedFormat (← chosen 1 c "--iso-8601" exactnessWords w)))
  | ('ρ', w) =>
      return some (text (Exactness.spacedFormat
        (← chosen 1 c "--rfc-3339" (exactnessWords.drop 2) w)))
  | ('μ', _) => return some (text "%s.%N")
  | _ => return none

/-- Show a moment that a text spells. -/
def showSpelled (c : Call) (now : Moment) (format t : Octets) : Action Nat := do
  match now.read? t with
  | some m =>
      say c (m.write format ++ ['\n'])
      return 0
  | none =>
      c.warn (text "invalid date " ++ c.quote t)
      return 1

/-- Show moments. -/
def date : Utility := fun c =>
  withOptions 1 "d:f:I::r:Rs:u"
    [("date", 'd', .needed), ("debug", 'δ', .none), ("file", 'f', .needed),
     ("iso-8601", 'I', .optional), ("reference", 'r', .needed), ("resolution", 'μ', .none),
     ("rfc-email", 'R', .none), ("rfc-822", 'R', .none), ("rfc-2822", 'R', .none),
     ("rfc-3339", 'ρ', .needed), ("set", 's', .needed), ("uct", 'u', .none), ("utc", 'u', .none),
     ("universal", 'u', .none)] c fun p => do
    let formats ← p.options.filterMapM (formatOfOption? c)
    if 1 < formats.length then c.die 1 (text "multiple output formats specified")
    let sources := ['d', 'f', 'r', 'μ'].filter p.has
    if 1 < sources.length then
      c.misuse 1 (text "the options to specify dates for printing are mutually exclusive")
    if p.has 's' && sources ≠ [] then
      c.misuse 1 (text "the options to print and set the time may not be used together")
    let format? ← match p.rest with
      | [] => pure formats.head?
      | _ :: x :: _ => c.misuse 1 (text "extra operand " ++ c.quote x)
      | [t] =>
          match t with
          | '+' :: t =>
              if formats ≠ [] then c.die 1 (text "multiple output formats specified")
              else pure (some t)
          | t =>
              if sources ≠ [] || p.has 's' then
                c.misuse 1 (text "the argument " ++ c.quote t ++ text (" lacks a leading '+';\n" ++
                  "when using an option to specify date(s), any non-option\n" ++
                  "argument must be a format string beginning with '+'"))
              else if t.all (fun x => x.isDigit || x = '.') && 8 ≤ t.length then
                c.die 1 (text "cannot set date: Operation not permitted")
              else c.die 1 (text "invalid date " ++ c.quote t)
    let format := format?.getD usualTimeFormat
    let zone := if p.has 'u' then Zone.universal else zoneOf c
    let now ← momentNow zone
    match sources.head? with
    | some 'd' => showSpelled c now format ((p.value? 'd').getD [])
    | some 'r' =>
        let file := (p.value? 'r').getD []
        let fs ← Action.request .look
        match fs.entry ⟨file⟩ with
        | .ok e =>
            say c ((Moment.ofNanoseconds zone e.attributes.modified).write format ++ ['\n'])
            return 0
        | .error e => c.die 1 (c.shown file ++ text ": " ++ e.reason)
    | some 'f' =>
        let file := (p.value? 'f').getD []
        match ← readInput file with
        | .ok t =>
            (linesOf t).foldlM (fun status l => do
              return max status (← showSpelled c now format (bare l))) 0
        | .error e => c.die 1 (c.shown file ++ text ": " ++ e.reason)
    | some _ =>
        say c (text "0.000000001\n")
        return 0
    | none =>
        if p.has 's' then c.warn (text "cannot set date: Operation not permitted")
        say c (now.write format ++ ['\n'])
        return if p.has 's' then 1 else 0

end SkipAudit.Utility
