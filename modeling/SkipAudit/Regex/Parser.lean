/-
Reading regular expressions.

There are two grammars: in the basic one parentheses, braces and bars mean something only behind
a backslash, in the extended one they mean something without it.
-/
import SkipAudit.Regex.Basic
import SkipAudit.Text.Classes

namespace SkipAudit.Regex

/-- In which grammar, and in which way, an expression is read. -/
structure Style where
  isExtended : Bool
  ignoresCase : Bool
  /-- How the characters of the text were read. -/
  encoding : Encoding
  /-- The beginnings and ends of all lines in the text count. -/
  ofAnyLine : Bool
  /-- Some operators mean something without a backslash, and there are no intervals. -/
  isEditor : Bool
  /-- A repetition of nothing is refused, and so are some repetitions of repetitions. -/
  isStrict : Bool
deriving DecidableEq, Repr

/-- The basic grammar. -/
def Style.basic (e : Encoding) : Style := ⟨false, false, e, false, false, false⟩

/-- The extended grammar. -/
def Style.extended (e : Encoding) : Style := ⟨true, false, e, false, false, false⟩

/-- The grammar of editors. -/
def Style.editor (e : Encoding) : Style := ⟨false, false, e, false, true, false⟩

/-- What is wrong with an expression. -/
inductive Fault where
  | emptyBracket
  | openBracket
  | openParen
  | closeParen
  | openBrace
  | badInterval
  | badRange
  | badClass
  | misplacedClass
  | badCollation
  | backslash
  | badReference
  | badRepetition
deriving DecidableEq, Repr

/-- The wording of a fault. -/
def Fault.message : Fault → Octets
  | .emptyBracket => text "Invalid regular expression"
  | .openBracket => text "Unmatched [, [^, [:, [., or [="
  | .openParen => text "Unmatched ( or \\("
  | .closeParen => text "Unmatched ) or \\)"
  | .openBrace => text "Unmatched \\\x7b"
  | .badInterval => text "Invalid content of \\\x7b\\\x7d"
  | .badRange => text "Invalid range end"
  | .badClass => text "Invalid character class name"
  | .misplacedClass => text "character class syntax is [[:space:]], not [:space:]"
  | .badCollation => text "Invalid collation character"
  | .backslash => text "Trailing backslash"
  | .badReference => text "Invalid back reference"
  | .badRepetition => text "Invalid preceding regular expression"

namespace Style

/-- Two characters that count as the same. -/
def same (s : Style) (a b : Char) : Bool :=
  a == b || (s.ignoresCase && (s.encoding.lowered a == s.encoding.lowered b ||
    s.encoding.raised a == s.encoding.raised b))

/-- A test of characters that sees through their case, if case does not matter. -/
def loosened (s : Style) (f : Char → Bool) (c : Char) : Bool :=
  f c || (s.ignoresCase && (f (s.encoding.lowered c) || f (s.encoding.raised c)))

end Style

/-! ## Sets of characters -/

/-- The text up to a sign and a closing bracket, and what stands behind them. -/
def upToClosing (sign : Char) : Octets → Option (Octets × Octets)
  | [] => none
  | c :: t =>
      if c = sign && t.head? = some ']' then some ([], t.drop 1)
      else (upToClosing sign t).map fun (u, rest) => (c :: u, rest)

/-- One end of a range, or a class. -/
inductive Item where
  | char (c : Char)
  | kind (f : Char → Bool)

/-- The next item between brackets. -/
def item (s : Style) : Octets → Except Fault (Item × Octets)
  | [] => .error .openBracket
  | '[' :: sign :: t =>
      if sign = ':' then
        match upToClosing ':' t with
        | none => .error .openBracket
        | some (name, rest) =>
            match s.encoding.class? name with
            | some f => .ok (.kind f, rest)
            | none => .error .badClass
      else if sign = '.' || sign = '=' then
        match upToClosing sign t with
        | some ([c], rest) => .ok (.char c, rest)
        | some _ => .error .badCollation
        | none => .error .openBracket
      else .ok (.char '[', sign :: t)
  | c :: t => .ok (.char c, t)

/-- A hyphen stands where it can be no item: neither first nor last. -/
def isStrayHyphen (isFirst : Bool) (t : Octets) : Bool :=
  !isFirst && (match t with
    | '-' :: b :: _ => b != ']'
    | _ => false)

/-- Read items up to the closing bracket; the number bounds how many there are. -/
def items (s : Style) : Nat → Bool → Octets → Except Fault (List (Char → Bool) × Octets)
  | 0, _, _ => .error .openBracket
  | _, false, ']' :: t => .ok ([], t)
  | n + 1, isFirst, t => do
      if isStrayHyphen isFirst t then .error .badRange
      let (first, rest) ← item s t
      match first, rest with
      | .kind f, rest =>
          let (fs, rest) ← items s n false rest
          return (f :: fs, rest)
      | .char a, '-' :: b :: more =>
          if b = ']' then
            let (fs, rest) ← items s n false rest
            return ((· == a) :: fs, rest)
          else
            match ← item s (b :: more) with
            | (.char b, more) =>
                if b < a then .error .badRange
                else
                  let (fs, rest) ← items s n false more
                  return ((fun c => decide (a ≤ c ∧ c ≤ b)) :: fs, rest)
            | (.kind _, _) => .error .badRange
      | .char a, rest =>
          let (fs, rest) ← items s n false rest
          return ((· == a) :: fs, rest)

/-- Read a set of characters behind its opening bracket. -/
def bracket (s : Style) (t : Octets) : Except Fault (Regex × Octets) := do
  let (isNegated, body) := match t with
    | '^' :: t => (true, t)
    | t => (false, t)
  if body = [] then .error .emptyBracket
  let (fs, rest) ← items s (body.length + 1) true body
  let inner := body.take (body.length - rest.length - 1)
  if inner.head? = some ':' && 1 < inner.length && inner.getLast? = some ':' && !isNegated then
    .error .misplacedClass
  else
    let accepts := s.loosened fun c => fs.any (· c)
    if isNegated then return (.single fun c => !accepts c && !s.encoding.isStray c, rest)
    else return (.single accepts, rest)

/-! ## Tokens -/

/-- What stands next in an expression. -/
inductive Token where
  | atom (r : Regex)
  | star
  | plus
  | question
  | openBrace
  | openParen
  | closeParen
  | bar
  | caret
  | dollar

/-- What a letter behind a backslash stands for, if it stands for something. -/
def escape? (s : Style) (c : Char) : Option Regex :=
  let isWord := s.encoding.isWordChar
  let isSpace := s.encoding.isSpace
  let isStray := s.encoding.isStray
  match c with
  | '<' => some (.boundary isWord false true)
  | '>' => some (.boundary isWord true false)
  | 'b' => some (.anyBoundary isWord true)
  | 'B' => some (.anyBoundary isWord false)
  | 'w' => some (.single isWord)
  | 'W' => some (.single fun c => !isWord c && !isStray c)
  | 's' => some (.single isSpace)
  | 'S' => some (.single fun c => !isSpace c && !isStray c)
  | '\x60' => some (.lineStart false)
  | '\'' => some (.lineEnd false)
  | 'n' => some (.single (· == '\n'))
  | _ => if c.isDigit && c ≠ '0' then some (.again (c.toNat - '0'.toNat)) else none

/-- The token that a character is, if it is one that means something. -/
def operator? (c : Char) : Option Token :=
  match c with
  | '(' => some .openParen
  | ')' => some .closeParen
  | '{' => some .openBrace
  | '|' => some .bar
  | '+' => some .plus
  | '?' => some .question
  | _ => none

/-- The operator that a character is behind a backslash. -/
def Style.escaped? (s : Style) (c : Char) : Option Token :=
  if s.isEditor && "\x7b\x7d+?".contains c then none else operator? c

/-- The operator that a character is without a backslash, where most of them need one. -/
def Style.bare? (s : Style) (c : Char) : Option Token :=
  if s.isEditor && (c == '+' || c == '?') then operator? c else none

/-- Read a token. -/
def token (s : Style) : Octets → Except Fault (Option (Token × Octets))
  | [] => .ok none
  | '\\' :: t =>
      match t with
      | [] => .error .backslash
      | c :: t =>
          match if s.isExtended then none else s.escaped? c with
          | some k => .ok (some (k, t))
          | none =>
              .ok (some (.atom ((escape? s c).getD (.single (s.same c))), t))
  | '[' :: t => do
      let (r, rest) ← bracket s t
      return some (.atom r, rest)
  | '.' :: t =>
      .ok (some (.atom (.single fun c => !s.encoding.isStray c && !(s.isEditor && c == '\n')), t))
  | '*' :: t => .ok (some (.star, t))
  | '^' :: t => .ok (some (.caret, t))
  | '$' :: t => .ok (some (.dollar, t))
  | c :: t =>
      match if s.isExtended then operator? c else s.bare? c with
      | some k => .ok (some (k, t))
      | none => .ok (some (.atom (.single (s.same c)), t))

/-! ## Expressions -/

/-- How often something is repeated, and the rest behind the closing brace; nothing if this is no
such statement. -/
def interval? (s : Style) (t : Octets) : Option (Nat × Option Nat × Octets) := do
  let low := t.takeWhile Char.isDigit
  let rest := t.drop low.length
  let (most?, rest) ← match rest with
    | ',' :: rest =>
        let high := rest.takeWhile Char.isDigit
        some ((Text.toNat? high).map some |>.getD none, rest.drop high.length)
    | rest => if low = [] then none else some (some ((Text.toNat? low).getD 0), rest)
  let rest ← if s.isExtended then Text.dropStart? ['}'] rest else Text.dropStart? ['\\', '}'] rest
  return ((Text.toNat? low).getD 0, most?, rest)

/-- An expression on the way. -/
structure Draft where
  /-- The alternatives before this one. -/
  alternatives : List Regex
  /-- What stands in front of the last atom, the newest first. -/
  done : List Regex
  last? : Option Regex
  groups : Nat

namespace Draft

/-- The draft with the last atom done. -/
def push (d : Draft) (next? : Option Regex) : Draft :=
  { d with done := d.last?.toList ++ d.done, last? := next? }

/-- The draft with a condition on the place, which cannot be repeated. -/
def anchor (d : Draft) (r : Regex) : Draft :=
  let d := d.push none
  { d with done := r :: d.done }

/-- The last atom is a repetition. -/
def endsInRepetition (d : Draft) : Bool :=
  match d.last? with
  | some (.repeated ..) => true
  | _ => false

/-- The alternative that is being read. -/
def current (d : Draft) : Regex :=
  (d.push none).done.foldl (fun r x => match r with
    | .empty => x
    | r => .both x r) .empty

/-- The whole expression. -/
def whole (d : Draft) : Regex :=
  d.alternatives.foldl (fun r x => .either x r) d.current

/-- A caret stands for the beginning of the line here. -/
def isAtStart (d : Draft) : Bool := d.done.isEmpty && d.last?.isNone

end Draft

/-- A dollar sign in front of this stands for the end of the line. -/
def endsAlternative (s : Style) (t : Octets) : Bool :=
  t.isEmpty || Text.startsWith ['\\', ')'] t || Text.startsWith ['\\', '|'] t || s.isExtended

/-- The text of a character that means nothing here. -/
def plainOf : Token → Char
  | .star => '*'
  | .plus => '+'
  | .question => '?'
  | .openBrace => '{'
  | .caret => '^'
  | _ => '$'

/-- Read an expression up to its end, or to the closing parenthesis that ends it; the number
bounds the length. -/
def expression (s : Style) : Nat → Nat → Draft → Octets → Except Fault (Regex × Nat × Octets)
  | 0, _, d, t => .ok (d.whole, d.groups, t)
  | n + 1, depth, d, t => do
      let asPlain (k : Token) (rest : Octets) : Except Fault (Regex × Nat × Octets) :=
        expression s n depth (d.push (some (.single (s.same (plainOf k))))) rest
      let repeatLast (k : Token) (least : Nat) (most? : Option Nat) (rest : Octets) :
          Except Fault (Regex × Nat × Octets) :=
        match d.last? with
        | some r =>
            expression s n depth { d with last? := some (.repeated least most? r) } rest
        | none =>
            if s.isExtended then
              if s.isStrict then .error .badRepetition else expression s n depth d rest
            else asPlain k rest
      let isDoubled := s.isStrict && !s.isExtended && d.endsInRepetition
      match ← token s t with
      | none => if depth = 0 then return (d.whole, d.groups, []) else .error .openParen
      | some (.atom (.again k), rest) =>
          if d.groups < k then .error .badReference
          else expression s n depth (d.push (some (.again k))) rest
      | some (.atom r, rest) => expression s n depth (d.push (some r)) rest
      | some (.star, rest) =>
          if isDoubled then .error .badRepetition else repeatLast .star 0 none rest
      | some (.plus, rest) => repeatLast .plus 1 none rest
      | some (.question, rest) => repeatLast .question 0 (some 1) rest
      | some (.openBrace, rest) =>
          match interval? s rest with
          | some (least, most?, rest) =>
              if isDoubled || s.isStrict && d.last?.isNone then .error .badRepetition
              else if most?.any (· < least) then .error .badInterval
              else if d.last?.isNone then
                if s.isExtended then expression s n depth d rest else .error .badInterval
              else repeatLast .openBrace least most? rest
          | none =>
              if s.isExtended && !s.isStrict then asPlain .openBrace rest
              else if rest.contains '}' then .error .badInterval
              else .error .openBrace
      | some (.openParen, rest) =>
          let number := d.groups + 1
          let (inner, groups, rest) ← expression s n (depth + 1) ⟨[], [], none, number⟩ rest
          expression s n depth { d.push (some (.group number inner)) with groups } rest
      | some (.closeParen, rest) =>
          if depth = 0 then
            if s.isExtended then
              expression s n depth (d.push (some (.single (s.same ')')))) rest
            else .error .closeParen
          else return (d.whole, d.groups, rest)
      | some (.bar, rest) =>
          expression s n depth ⟨d.current :: d.alternatives, [], none, d.groups⟩ rest
      | some (.caret, rest) =>
          if s.isExtended || d.isAtStart then
            expression s n depth (d.anchor (.lineStart s.ofAnyLine)) rest
          else asPlain .caret rest
      | some (.dollar, rest) =>
          if endsAlternative s rest then
            expression s n depth (d.anchor (.lineEnd s.ofAnyLine)) rest
          else asPlain .dollar rest

/-- Read an expression. -/
def parse (s : Style) (t : Octets) : Except Fault Regex :=
  (expression s (t.length + 1) 0 ⟨[], [], none, 0⟩ t).map (·.1)

end SkipAudit.Regex
