/-
The program that looks for lines that are repeated.
-/
import SkipAudit.Utility.Copying
import SkipAudit.Utility.Sorting.Key

namespace SkipAudit.Utility

namespace Repeats

/-- The lines in groups of equal ones next to each other. -/
def groupsOf (same : Octets → Octets → Bool) : List Octets → List (List Octets)
  | [] => []
  | l :: ls =>
      match groupsOf same ls with
      | (m :: ms) :: gs => if same l m then (l :: m :: ms) :: gs else [l] :: (m :: ms) :: gs
      | gs => [l] :: gs

/-- Where empty lines stand between groups. -/
inductive Gaps where
  | none
  | before
  | behind
  | between
  | around
deriving DecidableEq

/-- The words for these where all repeated lines are shown. -/
def repeatGaps : List (String × Gaps) :=
  [("none", .none), ("prepend", .before), ("separate", .between)]

/-- The words for these where all lines are shown. -/
def groupGaps : List (String × Gaps) :=
  [("prepend", .before), ("append", .behind), ("separate", .between), ("both", .around)]

/-- Groups with empty lines. -/
def withGaps (gaps : Gaps) (empty : Octets) (groups : List Octets) : Octets :=
  match gaps with
  | .none => groups.flatten
  | .before => groups.flatMap (empty ++ ·)
  | .behind => groups.flatMap (· ++ empty)
  | .between => (List.intersperse empty groups).flatten
  | .around => if groups = [] then [] else groups.flatMap (empty ++ ·) ++ empty

/-- Which lines of a group are shown: one that stands alone, the first one of several, and the
others. -/
structure Choice where
  alone : Bool
  first : Bool
  later : Bool

/-- The lines of a group that are shown. -/
def Choice.of (ch : Choice) (group : List Octets) : List Octets :=
  match group with
  | [l] => if ch.alone then [l] else []
  | ls => (if ch.first then ls.take 1 else []) ++ (if ch.later then ls.drop 1 else [])

/-- The part of a line that is compared. -/
def part (fields chars : Nat) (most? : Option Nat) (foldsCase : Bool) (t : Octets) : Octets :=
  let t := (Key.behindFields none fields t).drop chars
  let t := match most? with
    | some n => t.take n
    | none => t
  if foldsCase then t.map Char.toLower else t

end Repeats

open Repeats in
/-- Show lines that are repeated only once. -/
def uniq : Utility := fun c =>
  withOptions 1 "0123456789Dcdf:is:uw:z"
    [("count", 'c', .none), ("repeated", 'd', .none), ("all-repeated", 'δ', .optional),
     ("group", 'γ', .optional), ("ignore-case", 'i', .none), ("unique", 'u', .none),
     ("skip-fields", 'f', .needed), ("skip-chars", 's', .needed), ("check-chars", 'w', .needed),
     ("zero-terminated", 'z', .none)] c fun p => do
    let number (letter : Char) (what : String) : Action (Option Nat) := do
      match p.value? letter with
      | none => return none
      | some t =>
          match count "" t with
          | .ok n => return some n
          | .error .tooLarge => return some greatestCount
          | .error _ => c.die 1 (t ++ text ": invalid number of " ++ text what)
    let fields? ← number 'f' "fields to skip"
    let chars? ← number 's' "bytes to skip"
    let most? ← number 'w' "bytes to compare"
    let digits := (p.options.filter (·.1.isDigit)).map (·.1)
    let fields := (fields?.or (Text.toNat? digits)).getD 0
    let allGaps ← match p.value? 'δ' with
      | none | some [] => pure Gaps.none
      | some w => chosen 1 c "--all-repeated" repeatGaps w
    let groupGaps? ← match p.value? 'γ' with
      | none => pure none
      | some [] => pure (some Gaps.between)
      | some w => some <$> chosen 1 c "--group" groupGaps w
    let showsAll := p.has 'D' || p.has 'δ'
    match p.rest[2]? with
    | some x => c.misuse 1 (text "extra operand " ++ c.quote x)
    | none => pure ()
    if groupGaps?.isSome && (p.has 'c' || p.has 'd' || p.has 'u' || showsAll) then
      c.misuse 1 (text "--group is mutually exclusive with -c/-d/-D/-u")
    if p.has 'c' && showsAll then
      c.misuse 1 (text "printing all duplicated lines and repeat counts is meaningless")
    let file := p.rest.headD ['-']
    let fd ← match ← openInput file with
      | .ok fd => pure fd
      | .error e => c.die 1 (c.shown file ++ text ": " ++ e.reason)
    let target := (p.rest[1]?).getD ['-']
    let out ← if target = ['-'] then pure 1
      else match ← Action.openFile target .writing with
        | .ok fd => pure fd
        | .error e => c.die 1 (c.shown target ++ text ": " ++ e.reason)
    let lineEnd := if p.has 'z' then Octets.nul else '\n'
    match ← Action.readAll fd with
    | .error e => c.die 1 (text "error reading " ++ c.quoted file ++ text ": " ++ e.reason)
    | .ok t =>
        let key := part fields (chars?.getD 0) most? (p.has 'i')
        let lines := (linesEnding lineEnd t).map (Text.dropFinal lineEnd)
        let groups := groupsOf (fun a b => key a == key b) lines
        let whole (ls : List Octets) : Octets := ls.flatMap (· ++ [lineEnd])
        let shown := match groupGaps? with
          | some gaps => withGaps gaps [lineEnd] (groups.map whole)
          | none =>
              let choice : Choice := ⟨!(p.has 'd' || showsAll), !p.has 'u', showsAll⟩
              let kept := groups.filterMap fun g =>
                let ls := choice.of g
                if ls = [] then none
                else some (if p.has 'c' then inField 7 g.length ++ ' ' :: whole ls else whole ls)
              withGaps allGaps [lineEnd] kept
        if out = 1 then
          say c shown
          return 0
        else match ← Action.write out shown with
          | .ok () => return 0
          | .error e => c.die 1 (text "error writing " ++ c.quoted target ++ text ": " ++ e.reason)

end SkipAudit.Utility
