/-
Escapes: what a backslash makes of the characters behind it.
-/
import SkipAudit.Text.Encoding

namespace SkipAudit.Escape

/-- Whose escapes are read: the programs know some that the shell does not. -/
inductive Dialect where
  | shell
  /-- The program that writes in formats, with how it reads bytes. -/
  | program (e : Encoding)
  /-- The program that writes its arguments. -/
  | echo
deriving DecidableEq, Repr

/-- The character that a letter stands for behind a backslash. -/
def ofLetter? (c : Char) : Option Char :=
  match c with
  | 'a' => some '\x07'
  | 'b' => some '\x08'
  | 'e' => some '\x1b'
  | 'f' => some '\x0c'
  | 'n' => some '\n'
  | 'r' => some '\r'
  | 't' => some '\t'
  | 'v' => some '\x0b'
  | '\\' => some '\\'
  | _ => none

/-- A digit in base eight. -/
def isOctal (c : Char) : Bool := '0' ≤ c && c ≤ '7'

/-- The value of a digit in base sixteen. -/
def hexValue? (c : Char) : Option Nat :=
  if c.isDigit then some (c.toNat - '0'.toNat)
  else if 'a' ≤ c ∧ c ≤ 'f' then some (c.toNat - 'a'.toNat + 10)
  else if 'A' ≤ c ∧ c ≤ 'F' then some (c.toNat - 'A'.toNat + 10)
  else none

/-- The octet with a number, as far as it has one. -/
def octet (n : Nat) : Char := Char.ofNat (n % 256)

/-- The character that octal digits stand for, at most so many of them, and the rest. -/
def octal (limit : Nat) (t : Octets) : Char × Octets :=
  let ds := (t.take limit).takeWhile isOctal
  (octet (ds.foldl (fun n d => n * 8 + (d.toNat - '0'.toNat)) 0), t.drop ds.length)

/-- The character that hexadecimal digits stand for, at most two of them, and the rest. -/
def hex? (t : Octets) : Option (Char × Octets) :=
  let ds := (t.take 2).takeWhile fun c => (hexValue? c).isSome
  if ds = [] then none
  else some (octet (ds.foldl (fun n d => n * 16 + (hexValue? d).getD 0) 0), t.drop ds.length)

/-- What an escape comes to. -/
inductive Meaning where
  | char (c : Char) (rest : Octets)
  /-- Nothing more is written. -/
  | stop
  /-- The backslash stands for itself, and what follows means what it means anyway. -/
  | none
  /-- The backslash and the character behind it stand for themselves. -/
  | both (c : Char) (rest : Octets)
  | chars (t rest : Octets)
  /-- Digits are missing. -/
  | noDigits
  /-- There is no character with this number, which was given with so many digits. -/
  | noCharacter (letter : Char) (digits number : Nat)

/-- The value of hexadecimal digits, exactly so many of them, and the rest. -/
def hexNumber? (count : Nat) (t : Octets) : Option (Nat × Octets) :=
  let ds := t.take count
  if ds.length = count && ds.all fun c => (hexValue? c).isSome then
    some (ds.foldl (fun n d => n * 16 + (hexValue? d).getD 0) 0, t.drop count)
  else none

/-- A character that cannot be given by its number. -/
def isExcluded (n : Nat) : Bool :=
  (n ≤ 0x9F && n != 0x24 && n != 0x40 && n != 0x60) || (0xD800 ≤ n && n ≤ 0xDFFF)

/-- How a character is written that the encoding does not have. -/
def unwritable (n : Nat) : Octets :=
  let ds := (Nat.toDigits 16 n).map Char.toUpper
  let pad (width : Nat) := List.replicate (width - ds.length) '0' ++ ds
  if n < 0x10000 then '\\' :: 'u' :: pad 4 else '\\' :: 'U' :: pad 8

/-- The escape of a character that is given by its number, with a letter in front. -/
def numbered (e : Encoding) (letter : Char) (t : Octets) : Meaning :=
  let count := if letter = 'u' then 4 else 8
  match hexNumber? count t with
  | none => .noDigits
  | some (n, rest) =>
      if isExcluded n then .noCharacter letter count n
      else .chars (match e with
        | .utf8 => if n < 0x110000 then Octets.ofText [Char.ofNat n] else unwritable n
        | .bytes => if n < 128 then [Char.ofNat n] else unwritable n) rest

/-- The escape behind a backslash in a format. -/
def inFormat (d : Dialect) (t : Octets) : Meaning :=
  match t with
  | [] => .none
  | c :: rest =>
      if isOctal c then
        let (c, rest) := octal 3 t
        .char c rest
      else match ofLetter? c, d with
        | some c, _ => .char c rest
        | none, .shell => .none
        | none, .echo =>
            if c = 'x' then
              match hex? rest with
              | some (c, rest) => .char c rest
              | none => .none
            else if c = 'c' then .stop else .none
        | none, .program e =>
            match c with
            | '"' => .char '"' rest
            | 'c' => .stop
            | 'x' =>
                match hex? rest with
                | some (c, rest) => .char c rest
                | none => .noDigits
            | 'u' | 'U' => numbered e c rest
            | _ => .both c rest

/-- The escape behind a backslash in an argument. -/
def inArgument (d : Dialect) (t : Octets) : Meaning :=
  match t with
  | 'c' :: _ => .stop
  | '0' :: rest =>
      let (c, rest) := octal 3 rest
      .char c rest
  | _ => inFormat d t

/-- What is wrong with an escape. -/
inductive Fault where
  | noDigits
  | noCharacter (letter : Char) (digits number : Nat)
deriving DecidableEq, Repr

/-- What an escape ends. -/
inductive Ending where
  /-- All output. -/
  | stop
  | fault (f : Fault)
deriving DecidableEq, Repr

/-- A text with its escapes carried out, and whether one of them ends all output; the number
bounds the length. -/
def expandWithin (d : Dialect) : Nat → Octets → Octets × Option Ending
  | 0, t => (t, none)
  | _, [] => ([], none)
  | n + 1, '\\' :: t =>
      let goOn (front rest : Octets) : Octets × Option Ending :=
        let (u, ending?) := expandWithin d n rest
        (front ++ u, ending?)
      match inArgument d t with
      | .char c rest => goOn [c] rest
      | .chars cs rest => goOn cs rest
      | .both c rest => goOn ['\\', c] rest
      | .none => goOn ['\\'] t
      | .stop => ([], some .stop)
      | .noDigits => ([], some (.fault .noDigits))
      | .noCharacter l k m => ([], some (.fault (.noCharacter l k m)))
  | n + 1, c :: t =>
      let (u, ending?) := expandWithin d n t
      (c :: u, ending?)

/-- A text with its escapes carried out, and whether one of them ends all output. -/
def expand (d : Dialect) (t : Octets) : Octets × Option Ending := expandWithin d t.length t

end SkipAudit.Escape
