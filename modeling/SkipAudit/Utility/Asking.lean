/-
The programs that answer conditions.

How the arguments are understood depends on how many there are: up to four have their meaning by
their number alone, and more are questions joined by operators.
-/
import SkipAudit.Shell.Condition
import SkipAudit.Utility.Options

namespace SkipAudit.Utility.Asking

/-- What a condition is asked about, and what to name when something is missing. -/
structure Asker where
  call : Call
  fs : FileSystem
  last : Octets

/-- An answer with the arguments that are left, or a complaint. -/
abbrev Answer := Except Octets (Bool × List Octets)

/-- The operators between two operands. -/
def binaries : List Octets :=
  ["=", "==", "!=", "-eq", "-ne", "-ge", "-gt", "-le", "-lt", "-nt", "-ot", "-ef"].map text

/-- An argument stands between two operands. -/
def isBinary (t : Octets) : Bool := binaries.contains t

/-- The letters that ask about one operand. -/
def unaries : Octets := text "bcdefghkLNnOGprSstuwxz"

/-- An argument looks like a letter that asks about one operand. -/
def looksUnary : Octets → Bool
  | ['-', _] => true
  | _ => false

namespace Asker

/-- Something is missing. -/
def beyond {α : Type} (a : Asker) : Except Octets α :=
  .error (text "missing argument after " ++ a.call.quote a.last)

/-- An integer, of whatever size. -/
def integer (a : Asker) (t : Octets) : Except Octets Int :=
  let isBlank (x : Char) : Bool := x = ' ' || x = '\t'
  let (isNegative, u) := match t.dropWhile isBlank with
    | '-' :: u => (true, u)
    | '+' :: u => (false, u)
    | u => (false, u)
  let (n, size, rest) := Signed64.digits 10 0 u
  if size = 0 || !rest.all isBlank then .error (text "invalid integer " ++ a.call.quote t)
  else .ok (if isNegative then -(n : Int) else n)

/-- The answer about one operand. -/
def askOne (a : Asker) (letter : Char) (t : Octets) : Except Octets Bool :=
  match letter with
  | 'n' => .ok (t ≠ [])
  | 'z' => .ok (t = [])
  | 't' => (a.integer t).map fun _ => false
  | 'h' | 'L' => .ok (match a.fs.entryItself ⟨t⟩ with
      | .ok (.link ..) => true
      | _ => false)
  | 'N' => .ok (match a.fs.entry ⟨t⟩ with
      | .ok e => e.attributes.accessed < e.attributes.modified
      | .error _ => false)
  | letter => .ok (match a.fs.entry ⟨t⟩ with
      | .ok e => Shell.Condition.answers letter e
      | .error _ => false)

/-- A letter and its operand at the beginning of some arguments. -/
def unary (a : Asker) : List Octets → Answer
  | ['-', letter] :: rest =>
      if unaries.contains letter then match rest with
        | t :: rest => do return (← a.askOne letter t, rest)
        | [] => a.beyond
      else .error (a.call.quote ['-', letter] ++ text ": unary operator expected")
  | _ => a.beyond

/-- An operand that may be the length of a text. -/
inductive Operand where
  | plain (t : Octets)
  | length (t : Octets)

/-- The number that an operand is. -/
def number (a : Asker) : Operand → Except Octets Int
  | .plain t => a.integer t
  | .length t => .ok (a.call.encoding.decode t).length

/-- When a file was written. -/
def written? (a : Asker) (t : Octets) : Option Int :=
  (a.fs.entry ⟨t⟩).toOption.map (·.attributes.modified)

/-- The answer about two operands. -/
def askTwo (a : Asker) (x : Operand) (operator : Octets) (y : Operand) : Except Octets Bool :=
  let compared (f : Int → Int → Bool) : Except Octets Bool := do
    return f (← a.number x) (← a.number y)
  let onFiles (f : Octets → Octets → Bool) : Except Octets Bool :=
    match x, y with
    | .plain t, .plain u => .ok (f t u)
    | _, _ => .error (operator ++ text " does not accept -l")
  let spelled : Operand → Octets
    | .plain t | .length t => t
  let isLater (t u : Octets) : Bool := match a.written? t, a.written? u with
    | some m, some n => n < m
    | some _, none => true
    | none, _ => false
  match String.ofList operator with
  | "=" | "==" => .ok (spelled x == spelled y)
  | "!=" => .ok (spelled x != spelled y)
  | "-eq" => compared (· == ·)
  | "-ne" => compared (· != ·)
  | "-ge" => compared fun m n => n ≤ m
  | "-gt" => compared fun m n => n < m
  | "-le" => compared fun m n => m ≤ n
  | "-lt" => compared fun m n => m < n
  | "-nt" => onFiles isLater
  | "-ot" => onFiles fun t u => isLater u t
  | _ => onFiles (Shell.Condition.isSameFile a.fs)

/-- Two operands with an operator between them at the beginning of some arguments. -/
def binary (a : Asker) (x : Operand) : List Octets → Answer
  | operator :: l :: t :: rest =>
      if l = text "-l" then do return (← a.askTwo x operator (.length t), rest)
      else do return (← a.askTwo x operator (.plain l), t :: rest)
  | [operator, t] => do return (← a.askTwo x operator (.plain t), [])
  | _ => a.beyond

/-- Arguments without the first one, where something has to follow. -/
def advance (a : Asker) : List Octets → Except Octets (List Octets)
  | _ :: t :: rest => .ok (t :: rest)
  | _ => a.beyond

/-- One argument. -/
def one : List Octets → Answer
  | t :: rest => .ok (t ≠ [], rest)
  | [] => .ok (false, [])

/-- Two arguments. -/
def two (a : Asker) (args : List Octets) : Answer :=
  match args with
  | ['!'] :: rest => (one rest).map fun (b, rest) => (!b, rest)
  | t :: _ => if looksUnary t then a.unary args else a.beyond
  | [] => a.beyond

/-- Three arguments; `joined` takes those that are joined by an operator. -/
def three (a : Asker) (joined : List Octets → Answer) (args : List Octets) : Answer :=
  match args with
  | t :: u :: v :: rest =>
      if isBinary u then do return (← a.askTwo (.plain t) u (.plain v), rest)
      else if t = ['!'] then (a.two (u :: v :: rest)).map fun (b, rest) => (!b, rest)
      else if t = ['('] && v = [')'] then .ok (u ≠ [], rest)
      else if u = text "-a" || u = text "-o" then joined args
      else .error (a.call.quote u ++ text ": binary operator expected")
  | _ => a.beyond

/-- Arguments of which so many belong together. -/
def several (a : Asker) (joined : List Octets → Answer) (count : Nat) (args : List Octets) :
    Answer :=
  match count, args with
  | 1, _ => one args
  | 2, _ => a.two args
  | 3, _ => a.three joined args
  | 4, ['!'] :: rest => (a.three joined rest).map fun (b, rest) => (!b, rest)
  | 4, ['('] :: t :: u :: [')'] :: rest => do
      let (b, _) ← a.two [t, u]
      return (b, rest)
  | _, _ => joined args

/-- How many arguments stand in parentheses. -/
def enclosed (args : List Octets) : Nat :=
  match (args.drop 1).findIdx? (· == [')']) with
  | some i => if i < 4 then i + 1 else args.length
  | none => args.length

/-- One question; the number bounds the negations. -/
def term (a : Asker) (joined : List Octets → Answer) : Nat → List Octets → Answer
  | 0, _ => a.beyond
  | n + 1, args =>
      match args with
      | ['!'] :: _ => do
          let (b, rest) ← a.term joined n (← a.advance args)
          return (!b, rest)
      | ['('] :: _ => do
          let inner ← a.advance args
          let (b, rest) ← a.several joined (enclosed inner) inner
          match rest with
          | [')'] :: rest => return (b, rest)
          | [] => .error (a.call.quote [')'] ++ text " expected")
          | t :: _ =>
              .error (a.call.quote [')'] ++ text " expected, found " ++ a.call.quote t)
      | ['-', 'l'] :: t :: operator :: u :: rest =>
          if isBinary operator then a.binary (.length t) (operator :: u :: rest)
          else simple args
      | _ => simple args
where
  /-- A question without an operator in front. -/
  simple : List Octets → Answer
    | [] => a.beyond
    | t :: operator :: u :: rest =>
        if isBinary operator then a.binary (.plain t) (operator :: u :: rest)
        else if looksUnary t then a.unary (t :: operator :: u :: rest)
        else one (t :: operator :: u :: rest)
    | t :: rest => if looksUnary t then a.unary (t :: rest) else one (t :: rest)

/-- Questions joined by an operator; the number bounds how many there are. -/
def row (a : Asker) (operator : Octets) (join : Bool → Bool → Bool) (next : List Octets → Answer) :
    Nat → Bool → List Octets → Answer
  | 0, b, rest => .ok (b, rest)
  | n + 1, b, args => do
      let (b', rest) ← next args
      if rest.head? = some operator then a.row operator join next n (join b b') (rest.drop 1)
      else return (join b b', rest)

/-- Questions joined by operators; the first number bounds the depth of parentheses, the second
how many there are. -/
def joined (a : Asker) (size : Nat) : Nat → List Octets → Answer
  | 0, _ => a.beyond
  | n + 1, args =>
      if args = [] then a.beyond
      else
        a.row (text "-o") or
          (a.row (text "-a") and (a.term (a.joined size n) size) size true) size false args

/-- The answer to all arguments. -/
def answer (a : Asker) (args : List Octets) : Except Octets Bool := do
  let size := args.length + 1
  let (b, rest) ← a.several (a.joined size size) args.length args
  match rest with
  | [] => return b
  | t :: _ => .error (text "extra argument " ++ a.call.quote t)

end Asker

/-- Answer a condition. -/
def condition (c : Call) (args : List Octets) : Action Nat := do
  if args = [] then return 1
  let fs ← Action.request .look
  match (Asker.mk c fs (args.getLastD [])).answer args with
  | .ok b => return if b then 0 else 1
  | .error message =>
      c.warn message
      return 2

end Asking

/-- Answer a condition. -/
def test : Utility := fun c => Asking.condition c c.args

/-- Answer a condition in front of a closing bracket. -/
def bracket : Utility := fun c => do
  if c.args = [text "--help"] || c.args = [text "--version"] then
    withOptions 2 "" [] c fun _ => return 0
  else if c.args.getLast? = some [']'] then Asking.condition c c.args.dropLast
  else
    c.warn (text "missing " ++ c.quote [']'])
    return 2

end SkipAudit.Utility
