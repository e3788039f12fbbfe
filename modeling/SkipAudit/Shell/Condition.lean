/-
Conditions: questions about texts, numbers and files, joined by operators.

A condition is a row of arguments.  Which of them are operators depends on how many there are
and on what stands beside them, so that a text that looks like an operator can be asked about
as well.
-/
import SkipAudit.FileSystem.Basic
import SkipAudit.Number.Signed64

namespace SkipAudit.Shell.Condition

/-- How an operator stands to what it applies to. -/
inductive Kind where
  | unary
  | binary
  | not
  | and
  | or
  | leftParen
  | rightParen
deriving DecidableEq, Repr

/-- The unary operators. -/
def unaries : List Octets :=
  ["-r", "-w", "-x", "-e", "-f", "-d", "-c", "-b", "-p", "-u", "-g", "-k", "-s", "-t", "-z",
   "-n", "-h", "-L", "-S", "-O", "-G"].map text

/-- The binary operators. -/
def binaries : List Octets :=
  ["=", "!=", "<", ">", "-eq", "-ne", "-ge", "-gt", "-le", "-lt", "-nt", "-ot", "-ef"].map text

/-- The operator that an argument is. -/
def kind? (t : Octets) : Option Kind :=
  if unaries.contains t then some .unary
  else if binaries.contains t then some .binary
  else if t = ['!'] then some .not
  else if t = text "-a" then some .and
  else if t = text "-o" then some .or
  else if t = ['('] then some .leftParen
  else if t = [')'] then some .rightParen
  else none

/-- What the first of some arguments is taken for; nothing if it is an operand. -/
def lead? (args : List Octets) : Option Kind :=
  match args with
  | [] => none
  | t :: rest =>
      match kind? t, rest with
      | some .unary, [] => none
      | some .unary, [_] => some .unary
      | some .unary, u :: _ :: _ => if kind? u = some .binary then none else some .unary
      | some .leftParen, [] => none
      | k?, _ => k?

/-- What is wrong, in words. -/
abbrev Fault := Octets

/-- A result, with the arguments from the last one on that was used. -/
abbrev Step := Except Fault (Bool × List Octets)

/-- An integer. -/
def integer (t : Octets) : Except Fault Int :=
  match Signed64.decimal? t with
  | some n => .ok n
  | none => .error (text "Illegal number: " ++ t)

/-! ## Questions -/

/-- The device is the end of a pipe. -/
def isPipe : Device → Bool
  | .fifo => true
  | .descriptor _ _ isPipe _ => isPipe
  | _ => false

/-- The entry is one about which a letter asks. -/
def answers (letter : Char) (e : Entry) : Bool :=
  let a := e.attributes
  let has (bits : Nat) : Bool := a.mode &&& bits ≠ 0
  match letter, e with
  | 'e', _ | 'r', _ | 'w', _ => true
  | 'O', _ => a.owner = 0
  | 'G', _ => a.group = 0
  | 'u', _ => has 0o4000
  | 'g', _ => has 0o2000
  | 'k', _ => has 0o1000
  | 'x', .dir .. => true
  | 'x', _ => has 0o111
  | 's', .file d => d.bytes ≠ []
  | 's', .dir .. => true
  | 'f', .file _ => true
  | 'd', .dir .. => true
  | 'p', .device _ k => isPipe k
  | 'c', .device _ k => !isPipe k
  | _, _ => false

/-- The answer to a question about one text. -/
def askOne (fs : FileSystem) (operator operand : Octets) : Except Fault Bool :=
  match operator with
  | ['-', 'z'] => .ok operand.isEmpty
  | ['-', 'n'] => .ok !operand.isEmpty
  | ['-', 't'] => do
      let _ ← integer operand
      return false
  | ['-', c] =>
      if c = 'h' ∨ c = 'L' then
        match fs.locate false (Path.mk operand) with
        | .ok (.taken _ (.link ..)) => .ok true
        | _ => .ok false
      else match fs.entry (Path.mk operand) with
        | .ok e => .ok (answers c e)
        | .error _ => .ok false
  | _ => .ok false

/-- When a file was written. -/
def modified? (fs : FileSystem) (t : Octets) : Option Int :=
  (fs.entry (Path.mk t)).toOption.map fun e => e.attributes.modified

/-- Two paths lead to the same place, or to one file. -/
def isSameFile (fs : FileSystem) (a b : Octets) : Bool :=
  match fs.entry (Path.mk a), fs.entry (Path.mk b) with
  | .ok d, .ok e => d.attributes.identity == e.attributes.identity
  | _, _ => false

/-- The answer to a question about two texts. -/
def askTwo (fs : FileSystem) (a operator b : Octets) : Except Fault Bool :=
  let compare (f : Int → Int → Bool) : Except Fault Bool := do
    return f (← integer a) (← integer b)
  match String.ofList operator with
  | "=" => .ok (a == b)
  | "!=" => .ok (a != b)
  | "<" => .ok (Text.le a b && a != b)
  | ">" => .ok (Text.le b a && a != b)
  | "-eq" => compare (· == ·)
  | "-ne" => compare (· != ·)
  | "-ge" => compare fun x y => y ≤ x
  | "-gt" => compare fun x y => y < x
  | "-le" => compare fun x y => x ≤ y
  | "-lt" => compare fun x y => x < y
  | "-ef" => .ok (isSameFile fs a b)
  | "-nt" =>
      match modified? fs a, modified? fs b with
      | some x, some y => .ok (y < x)
      | _, _ => .ok false
  | "-ot" =>
      match modified? fs a, modified? fs b with
      | some x, some y => .ok (x < y)
      | _, _ => .ok false
  | _ => .ok false

/-! ## Joined questions -/

/-- Reads a condition from some arguments. -/
abbrev Reader := List Octets → Step

/-- One question, or a condition in parentheses. -/
def primary (fs : FileSystem) (whole : Reader) (args : List Octets) : Step :=
  match args with
  | [] => .ok (false, [])
  | t :: rest =>
      match lead? args with
      | some .leftParen =>
          if lead? rest = some .rightParen then .ok (false, rest)
          else do
            let (b, last) ← whole rest
            if lead? (last.drop 1) = some .rightParen then return (b, last.drop 1)
            else .error (text "closing paren expected")
      | some .unary =>
          match rest with
          | [] => .error (t ++ text ": argument expected")
          | u :: _ => do return (← askOne fs t u, rest)
      | _ =>
          if lead? rest = some .binary then
            match rest with
            | op :: u :: more => do return (← askTwo fs t op u, u :: more)
            | op :: [] => .error (op ++ text ": argument expected")
            | [] => .ok (!t.isEmpty, args)
          else .ok (!t.isEmpty, args)

/-- A question that may be negated. -/
def negated (fs : FileSystem) (whole : Reader) : Nat → Reader
  | 0, args => .ok (false, args)
  | n + 1, args =>
      if lead? args = some .not then
        match args with
        | t :: [] => do
            let (b, last) ← negated fs whole n []
            return (!b, if last = [] then [t] else last)
        | _ :: rest => do
            let (b, last) ← negated fs whole n rest
            return (!b, last)
        | [] => .ok (false, [])
      else primary fs whole args

/-- Conditions joined by `and`. -/
def conjunction (fs : FileSystem) (whole : Reader) : Nat → Bool → Reader
  | 0, b, args => .ok (b, args)
  | n + 1, b, args => do
      let (c, last) ← negated fs whole (args.length + 1) args
      if lead? (last.drop 1) = some .and then conjunction fs whole n (b && c) (last.drop 2)
      else return (b && c, last)

/-- Conditions joined by `or`. -/
def disjunction (fs : FileSystem) (whole : Reader) : Nat → Bool → Reader
  | 0, b, args => .ok (b, args)
  | n + 1, b, args => do
      let (c, last) ← conjunction fs whole (args.length + 1) true args
      if lead? (last.drop 1) = some .or then disjunction fs whole n (b || c) (last.drop 2)
      else return (b || c, last)

/-- A condition; the number bounds the depth of the parentheses. -/
def condition (fs : FileSystem) : Nat → Reader
  | 0, args => .ok (false, args)
  | n + 1, args => disjunction fs (condition fs n) (args.length + 1) false args

/-- The answer to a condition of several arguments that has to use all of them. -/
def finished (step : Step) : Except Fault Bool := do
  let (b, last) ← step
  match last with
  | t :: _ :: _ => .error (t ++ text ": unexpected operator")
  | _ => return b

/-- The answer to a condition; the number bounds how often it is negated. -/
def answerWithin (fs : FileSystem) : Nat → List Octets → Except Fault Bool
  | 0, _ => .ok false
  | n + 1, args =>
      let general := finished (condition fs (args.length + 1) args)
      let special (args : List Octets) : Except Fault Bool :=
        match args with
        | ['('] :: rest =>
            if rest.getLast? = some [')'] then
              finished (condition fs (args.length + 1) rest.dropLast)
            else general
        | ['!'] :: rest => do return !(← answerWithin fs n rest)
        | _ => general
      match args with
      | [] => .ok false
      | [a, op, b] => if kind? op = some .binary then askTwo fs a op b else special args
      | [_, _, _, _] => special args
      | _ => general

/-- The answer to a condition. -/
def answer (fs : FileSystem) (args : List Octets) : Except Fault Bool :=
  answerWithin fs (args.length + 1) args

end SkipAudit.Shell.Condition
