/-
Arithmetic on integers of 64 bits.

An expression is read with the usual precedences and evaluated from left to right; what the
value of a variable is, and how it is changed, is up to whoever evaluates.
-/
import SkipAudit.Number.Signed64

namespace SkipAudit.Shell.Arithmetic

open Signed64 (wrap bits width natural saturate)

/-! ## Expressions -/

/-- An operation on one integer. -/
inductive Unary where
  | minus
  | logicalNot
  | bitNot
deriving DecidableEq, Repr

/-- An operation on two integers. -/
inductive Binary where
  | times
  | over
  | modulo
  | plus
  | minus
  | shiftLeft
  | shiftRight
  | less
  | lessEqual
  | greater
  | greaterEqual
  | equal
  | notEqual
  | bitAnd
  | bitXor
  | bitOr
deriving DecidableEq, Repr

/-- An expression. -/
inductive Expr where
  | number (n : Int)
  | var (name : Octets)
  | unary (op : Unary) (a : Expr)
  | binary (op : Binary) (a b : Expr)
  | conjunction (a b : Expr)
  | disjunction (a b : Expr)
  | choice (test positive negative : Expr)
  | assign (name : Octets) (op? : Option Binary) (a : Expr)
deriving Repr

namespace Binary

/-- How tightly an operation binds; the tightest comes first. -/
def level : Binary → Nat
  | .times | .over | .modulo => 0
  | .plus | .minus => 1
  | .shiftLeft | .shiftRight => 2
  | .less | .lessEqual | .greater | .greaterEqual => 3
  | .equal | .notEqual => 4
  | .bitAnd => 5
  | .bitXor => 6
  | .bitOr => 7

/-- The loosest level of an operation on two integers. -/
def loosest : Nat := 7

/-- A truth value as an integer. -/
def ofBool (b : Bool) : Int := if b then 1 else 0

/-- One integer cannot be divided by another. -/
def cannotDivide (a b : Int) : Bool := b = 0 || (a = Signed64.least && b = -1)

/-- The result of an operation; there is none for a division by zero, nor for the one whose
result is too large. -/
def value? (op : Binary) (a b : Int) : Option Int :=
  match op with
  | .times => some (wrap (a * b))
  | .over => if cannotDivide a b then none else some (a.tdiv b)
  | .modulo => if cannotDivide a b then none else some (a.tmod b)
  | .plus => some (wrap (a + b))
  | .minus => some (wrap (a - b))
  | .shiftLeft => some (wrap (bits a <<< (bits b % width) : Nat))
  | .shiftRight => some (a >>> (bits b % width))
  | .less => some (ofBool (a < b))
  | .lessEqual => some (ofBool (a ≤ b))
  | .greater => some (ofBool (b < a))
  | .greaterEqual => some (ofBool (b ≤ a))
  | .equal => some (ofBool (a = b))
  | .notEqual => some (ofBool (a ≠ b))
  | .bitAnd => some (wrap (bits a &&& bits b : Nat))
  | .bitXor => some (wrap (bits a ^^^ bits b : Nat))
  | .bitOr => some (wrap (bits a ||| bits b : Nat))

end Binary

/-- The result of an operation on one integer. -/
def Unary.apply (op : Unary) (a : Int) : Int :=
  match op with
  | .minus => wrap (-a)
  | .logicalNot => Binary.ofBool (a = 0)
  | .bitNot => -a - 1

/-! ## Reading -/

/-- A token of an expression. -/
inductive Token where
  | number (n : Int)
  | var (name : Octets)
  | binary (op : Binary)
  | assign (op? : Option Binary)
  | logicalNot
  | bitNot
  | andThen
  | orElse
  | question
  | colon
  | leftParen
  | rightParen
  | bad
deriving DecidableEq, Repr

/-- The operators that stand for one token each, longer ones first. -/
def operators : List (Octets × Token) :=
  Text.keyed [
   ("<<=", .assign (some .shiftLeft)), (">>=", .assign (some .shiftRight)),
   ("<<", .binary .shiftLeft), (">>", .binary .shiftRight), ("<=", .binary .lessEqual),
   (">=", .binary .greaterEqual), ("==", .binary .equal), ("!=", .binary .notEqual),
   ("&&", .andThen), ("||", .orElse), ("+=", .assign (some .plus)),
   ("-=", .assign (some .minus)), ("*=", .assign (some .times)), ("/=", .assign (some .over)),
   ("%=", .assign (some .modulo)), ("&=", .assign (some .bitAnd)),
   ("^=", .assign (some .bitXor)), ("|=", .assign (some .bitOr)), ("=", .assign none),
   ("<", .binary .less), (">", .binary .greater), ("+", .binary .plus), ("-", .binary .minus),
   ("*", .binary .times), ("/", .binary .over), ("%", .binary .modulo), ("&", .binary .bitAnd),
   ("^", .binary .bitXor), ("|", .binary .bitOr), ("!", .logicalNot), ("~", .bitNot),
   ("?", .question), (":", .colon), ("(", .leftParen), (")", .rightParen)]

/-- The token at the beginning of a text, and the rest. -/
def token (t : Octets) : Token × Octets :=
  match natural t with
  | some (n, rest) => (.number (saturate n), rest)
  | none =>
      let name := t.takeWhile fun c => c.isAlphanum || c == '_'
      if name ≠ [] then (.var name, t.drop name.length)
      else match operators.find? fun o => Text.startsWith o.1 t with
        | some (o, k) => (k, t.drop o.length)
        | none => (.bad, t.drop 1)

/-- The tokens of a text; the number bounds their number. -/
def tokens : Nat → Octets → List Token
  | 0, _ => []
  | n + 1, t =>
      match t.dropWhile fun c => c == ' ' || c == '\t' || c == '\n' with
      | [] => []
      | t =>
          let (k, rest) := token t
          k :: tokens n rest

/-- Reading an expression from tokens, or saying what is wrong. -/
abbrev Read := List Token → Except String (Expr × List Token)

/-- Read an operand. -/
def primary (whole : Read) : Nat → Read
  | 0, _ => .error "expecting primary"
  | n + 1, ts =>
      match ts with
      | .leftParen :: ts => do
          let (e, ts) ← whole ts
          match ts with
          | .rightParen :: ts => return (e, ts)
          | _ => .error "expecting ')'"
      | .number k :: ts => .ok (.number k, ts)
      | .var name :: ts => .ok (.var name, ts)
      | .binary .plus :: ts => primary whole n ts
      | .binary .minus :: ts => do
          let (e, ts) ← primary whole n ts
          return (.unary .minus e, ts)
      | .logicalNot :: ts => do
          let (e, ts) ← primary whole n ts
          return (.unary .logicalNot e, ts)
      | .bitNot :: ts => do
          let (e, ts) ← primary whole n ts
          return (.unary .bitNot e, ts)
      | _ => .error "expecting primary"

/-- Read what operations of one level go on with. -/
def chain (operand : Read) (level : Nat) : Nat → Expr → Read
  | 0, a, ts => .ok (a, ts)
  | n + 1, a, ts =>
      match ts with
      | .binary op :: rest =>
          if op.level = level then do
            let (b, rest) ← operand rest
            chain operand level n (.binary op a b) rest
          else .ok (a, ts)
      | _ => .ok (a, ts)

/-- Read operations up to a level, tighter ones inside. -/
def operations (whole : Read) (size : Nat) : Nat → Read
  | 0 => fun ts => do
      let (a, ts) ← primary whole size ts
      chain (primary whole size) 0 size a ts
  | level + 1 => fun ts => do
      let (a, ts) ← operations whole size level ts
      chain (operations whole size level) (level + 1) size a ts

/-- Read a conjunction. -/
def conjunction (whole : Read) (size : Nat) : Nat → Read
  | 0, _ => .error "expecting primary"
  | n + 1, ts => do
      let (a, ts) ← operations whole size Binary.loosest ts
      match ts with
      | .andThen :: ts =>
          let (b, ts) ← conjunction whole size n ts
          return (.conjunction a b, ts)
      | _ => return (a, ts)

/-- Read a disjunction. -/
def disjunction (whole : Read) (size : Nat) : Nat → Read
  | 0, _ => .error "expecting primary"
  | n + 1, ts => do
      let (a, ts) ← conjunction whole size size ts
      match ts with
      | .orElse :: ts =>
          let (b, ts) ← disjunction whole size n ts
          return (.disjunction a b, ts)
      | _ => return (a, ts)

/-- Read a choice. -/
def choice (whole : Read) (size : Nat) : Nat → Read
  | 0, _ => .error "expecting primary"
  | n + 1, ts => do
      let (a, ts) ← disjunction whole size size ts
      match ts with
      | .question :: ts =>
          let (b, ts) ← whole ts
          match ts with
          | .colon :: ts =>
              let (c, ts) ← choice whole size n ts
              return (.choice a b c, ts)
          | _ => .error "expecting ':'"
      | _ => return (a, ts)

/-- Read an expression; the number bounds its depth. -/
def expression (size : Nat) : Nat → Read
  | 0, _ => .error "expecting primary"
  | n + 1, ts =>
      match ts with
      | .var name :: .assign op? :: ts => do
          let (e, ts) ← expression size n ts
          return (.assign name op? e, ts)
      | ts => choice (expression size n) size size ts

/-- The expression that a text is, or what is wrong with it. -/
def read (t : Octets) : Except String Expr := do
  let size := t.length + 1
  let (e, rest) ← expression size size (tokens size t)
  if rest = [] then return e else .error "expecting EOF"

/-! ## Evaluation -/

/-- What an evaluator needs. -/
structure Variables (m : Type → Type) where
  value : Octets → m Int
  assign : Octets → Int → m Unit
  /-- What comes of a division that cannot be done, by the divisor. -/
  cannotDivide : Int → m Int

/-- The value of an expression. -/
def Expr.eval {m : Type → Type} [Monad m] (vars : Variables m) : Expr → m Int
  | .number n => pure n
  | .var name => vars.value name
  | .unary op a => do return op.apply (← a.eval vars)
  | .binary op a b => do
      let x ← a.eval vars
      let y ← b.eval vars
      match op.value? x y with
      | some n => return n
      | none => vars.cannotDivide y
  | .conjunction a b => do
      if (← a.eval vars) = 0 then return 0
      else return Binary.ofBool ((← b.eval vars) ≠ 0)
  | .disjunction a b => do
      if (← a.eval vars) ≠ 0 then return 1
      else return Binary.ofBool ((← b.eval vars) ≠ 0)
  | .choice test positive negative => do
      if (← test.eval vars) ≠ 0 then positive.eval vars else negative.eval vars
  | .assign name op? a => do
      let y ← a.eval vars
      let result ← match op? with
        | none => pure y
        | some op => do
            let x ← vars.value name
            match op.value? x y with
            | some n => pure n
            | none => vars.cannotDivide y
      vars.assign name result
      return result

end SkipAudit.Shell.Arithmetic
