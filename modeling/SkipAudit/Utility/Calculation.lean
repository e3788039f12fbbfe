/-
The program that calculates the value of an expression.

An expression is a row of arguments.  Where a value makes no difference any more it is read but
not calculated, so that nothing can be wrong with it.
-/
import SkipAudit.Regex.Parser
import SkipAudit.Utility.Options

namespace SkipAudit.Utility

namespace Calculation

/-- A value with what is left of the arguments, or a complaint. -/
abbrev Outcome := Except Octets (Octets × List Octets)

/-- Reads a value at the beginning of some arguments, which stand behind `before`; the flag says
whether the value is calculated. -/
abbrev Reader := Bool → Octets → List Octets → Outcome

/-- The integer that a value is. -/
def integer? : Octets → Option Int
  | '-' :: t => (Text.toNat? t).map fun n => -(n : Int)
  | t => (Text.toNat? t).map Int.ofNat

/-- A value that counts as nothing. -/
def isNull (t : Octets) : Bool :=
  t = [] || (match integer? t with
    | some n => n == 0
    | none => false)

/-- Match a value with an expression at its beginning. -/
def matched (c : Call) (t pattern : Octets) : Except Octets Octets :=
  let e := c.encoding
  match Regex.parse { Regex.Style.basic e with ofAnyLine := true } (e.decode pattern) with
  | .error fault => .error fault.message
  | .ok r =>
      let hasGroup := 0 < r.groupCount
      match r.longestAt? (.start (e.decode t)) with
      | some m => .ok (if hasGroup then e.encode (m.group 1) else Text.ofNat m.stop.index)
      | none => .ok (if hasGroup then [] else ['0'])

/-- The complaint that something has to follow. -/
def missing (c : Call) (before : Octets) : Octets :=
  text "syntax error: missing argument after " ++ c.quote before

/-- A value of one argument or in parentheses; `inner` calculates what stands in them. -/
def primary (c : Call) (inner : Reader) : Reader := fun counts before args =>
  match args with
  | [] => .error (missing c before)
  | ['('] :: rest => do
      let (t, rest') ← inner counts ['('] rest
      match rest' with
      | [')'] :: rest' => return (t, rest')
      | [] => .error (text "syntax error: expecting ')' after " ++ c.quote (rest.getLastD []))
      | x :: _ => .error (text "syntax error: expecting ')' instead of " ++ c.quote x)
  | [')'] :: _ => .error (text "syntax error: unexpected ')'")
  | t :: rest => .ok (t, rest)

/-- The part of a text from a character on, both numbers counted from one. -/
def part (c : Call) (t i k : Octets) : Octets :=
  match integer? i, integer? k with
  | some i, some k =>
      if i ≤ 0 ∨ k ≤ 0 then []
      else
        let e := c.encoding
        e.encode (((e.decode t).drop (i.toNat - 1)).take k.toNat)
  | _, _ => []

/-- What stands in front of the arguments that are left. -/
def lastUsed (args rest : List Octets) : Octets :=
  ((args.take (args.length - rest.length)).getLast?).getD []

/-- A value that may be a function of others; the number bounds how deeply they are nested. -/
def function (c : Call) (inner : Reader) : Nat → Reader
  | 0, counts, before, args => primary c inner counts before args
  | n + 1, counts, before, args =>
      let next (args : List Octets) : Outcome :=
        function c inner n counts (args.headD []) (args.drop 1)
      let after (all rest : List Octets) : List Octets := lastUsed all rest :: rest
      let e := c.encoding
      let name := args.headD []
      if name = ['+'] then match args with
        | _ :: t :: rest => .ok (t, rest)
        | _ => .error (missing c ['+'])
      else if name = text "length" then do
        let (t, rest) ← next args
        return (Text.ofNat (e.length t), rest)
      else if name = text "match" then do
        let (t, rest) ← next args
        let (pattern, rest) ← next (after args rest)
        if counts then return (← matched c t pattern, rest) else return (t, rest)
      else if name = text "index" then do
        let (t, rest) ← next args
        let (accepted, rest) ← next (after args rest)
        let cs := e.decode accepted
        return (Text.ofNat ((((e.decode t).findIdx? cs.contains).map (· + 1)).getD 0), rest)
      else if name = text "substr" then do
        let (t, rest) ← next args
        let (i, rest) ← next (after args rest)
        let (k, rest) ← next (after args rest)
        return (part c t i k, rest)
      else primary c inner counts before args

/-- What an operator makes of two values. -/
abbrev Operation := Octets → Octets → Except Octets Octets

/-- An operation on integers. -/
def onIntegers (f : Int → Int → Except Octets Int) : Operation := fun a b =>
  match integer? a, integer? b with
  | some x, some y => (f x y).map Text.ofInt
  | _, _ => .error (text "non-integer argument")

/-- A comparison: of numbers if both are numbers, and else of texts. -/
def onOrder (f : Ordering → Bool) : Operation := fun a b =>
  let o := match integer? a, integer? b with
    | some x, some y => compare x y
    | _, _ => if a = b then .eq else if Text.le a b then .lt else .gt
  .ok (if f o then ['1'] else ['0'])

/-- Division, which needs a divisor. -/
def divided (f : Int → Int → Int) (a b : Int) : Except Octets Int :=
  if b = 0 then .error (text "division by zero") else .ok (f a b)

/-- An operator: its word, when the second value counts, by the first one, and what it makes of
both. -/
structure Operator where
  word : String
  countsSecond : Octets → Bool
  operation : Operation

/-- An operator for which both values count. -/
def strict (word : String) (operation : Operation) : Operator := ⟨word, fun _ => true, operation⟩

/-- The operators, those that bind most tightly first. -/
def operators (c : Call) : List (List Operator) :=
  [[strict ":" (matched c)],
   [strict "*" (onIntegers fun a b => .ok (a * b)), strict "/" (onIntegers (divided Int.tdiv)),
    strict "%" (onIntegers (divided Int.tmod))],
   [strict "+" (onIntegers fun a b => .ok (a + b)), strict "-" (onIntegers fun a b => .ok (a - b))],
   [strict "<" (onOrder (· == .lt)), strict "<=" (onOrder (· != .gt)),
    strict "=" (onOrder (· == .eq)), strict "==" (onOrder (· == .eq)),
    strict "!=" (onOrder (· != .eq)), strict ">=" (onOrder (· != .lt)),
    strict ">" (onOrder (· == .gt))],
   [⟨"&", (!isNull ·), fun a b => .ok (if isNull a || isNull b then ['0'] else a)⟩],
   [⟨"|", isNull, fun a b => .ok (if !isNull a then a else if isNull b then ['0'] else b)⟩]]

/-- Values joined by operators of one kind, from the left; the number bounds how many. -/
def joined (ops : List Operator) (next : Reader) (counts : Bool) :
    Nat → Octets → List Octets → Outcome
  | 0, t, rest => .ok (t, rest)
  | n + 1, t, rest =>
      match rest with
      | o :: more =>
          match ops.find? fun x => text x.word == o with
          | some x => do
              let (u, rest) ← next (counts && x.countsSecond t) o more
              joined ops next counts n (← if counts then x.operation t u else .ok t) rest
          | none => .ok (t, rest)
      | [] => .ok (t, [])

/-- A value at some level of the operators; `size` bounds how many values there are. -/
def valueAt (c : Call) (inner : Reader) (size : Nat) : List (List Operator) → Reader
  | [] => function c inner size
  | ops :: tighter => fun counts before args => do
      let (t, rest) ← valueAt c inner size tighter counts before args
      joined ops (valueAt c inner size tighter) counts size t rest

/-- The value of an expression; the number bounds the depth of parentheses. -/
def value (c : Call) (size : Nat) : Nat → Reader
  | 0 => fun _ before _ => .error (missing c before)
  | n + 1 => valueAt c (value c size n) size (operators c).reverse

/-- The value of all arguments. -/
def ofAll (c : Call) (args : List Octets) : Except Octets Octets := do
  let size := args.length + 1
  match ← value c size size true c.name args with
  | (_, x :: _) => .error (text "syntax error: unexpected argument " ++ c.quote x)
  | (t, []) => return t

end Calculation

/-- Calculate the value of an expression. -/
def expr : Utility := fun c => do
  let args := match c.args with
    | ['-', '-'] :: args => args
    | args => args
  if c.args = [text "--help"] || c.args = [text "--version"] then
    withOptions 2 "" [] c fun _ => return 0
  else if args = [] then c.misused 2 (text "missing operand")
  else
    match Calculation.ofAll c args with
    | .ok t =>
        say c (t ++ ['\n'])
        return if Calculation.isNull t then 1 else 0
    | .error e =>
        c.warn e
        return 2

end SkipAudit.Utility
