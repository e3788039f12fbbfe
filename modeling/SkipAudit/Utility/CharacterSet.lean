/-
Sets of characters as they are spelled: single characters, ranges, classes and repetitions.
-/
import SkipAudit.Format.Escape
import SkipAudit.Number.Signed64
import SkipAudit.Text.Classes
import SkipAudit.Utility.Basic

namespace SkipAudit.Utility

/-- A part of a set of characters. -/
inductive SetPart where
  | one (c : Char)
  | range (first last : Char)
  | named (name : Octets) (members : Octets)
  /-- All that count as equal to a character. -/
  | alike (c : Char)
  /-- A character so many times; as often as needed, if no number is given. -/
  | many (c : Char) (count? : Option Nat)

namespace CharacterSet

/-- A character, and whether a backslash stood in front of it. -/
abbrev Sign := Char × Bool

/-- A warning about the spelling of a set. -/
abbrev Warnings := List Octets

/-- The signs of a text, with escapes carried out; the number bounds the length. -/
def signs : Nat → Octets → List Sign × Warnings
  | 0, _ => ([], [])
  | _, [] => ([], [])
  | _, ['\\'] =>
      ([('\\', false)],
        [text "warning: an unescaped backslash at end of string is not portable"])
  | n + 1, '\\' :: d :: rest =>
      if Escape.isOctal d then
        let ds := ((d :: rest).take 3).takeWhile Escape.isOctal
        let value (ds : Octets) : Nat := ds.foldl (fun n x => n * 8 + (x.toNat - 48)) 0
        let isLarge := 255 < value ds
        let used := if isLarge then ds.take 2 else ds
        let (more, ws) := signs n ((d :: rest).drop used.length)
        let spelled (ds : Octets) : Octets := '\\' :: ds
        ((Char.ofNat (value used), true) :: more,
          if isLarge then
            (text "warning: the ambiguous octal escape " ++ spelled ds ++
              text " is being\n\tinterpreted as the 2-byte sequence " ++ spelled ('0' :: used) ++
              text ", " ++ ds.drop 2) :: ws
          else ws)
      else
        let c := if d = 'e' then 'e' else (Escape.ofLetter? d).getD d
        let (more, ws) := signs n rest
        ((c, true) :: more, ws)
  | n + 1, c :: rest =>
      let (more, ws) := signs n rest
      ((c, false) :: more, ws)

/-- All characters. -/
def all : Octets := (List.range 256).map Char.ofNat

/-- The characters from one to another. -/
def charRange (a b : Char) : Octets :=
  (List.range (b.toNat + 1 - a.toNat)).map fun i => Char.ofNat (a.toNat + i)

/-- The characters of a part; `fill` is how often a repetition without a number stands there. -/
def SetPart.members (fill : Nat) : SetPart → Octets
  | .one c | .alike c => [c]
  | .range a b => charRange a b
  | .named _ cs => cs
  | .many c count? => List.replicate (count?.getD fill) c

/-- What stands in front of the end of a construct, and the rest. -/
def upToClosing (mark : Char) : List Sign → Option (Octets × List Sign)
  | [] => none
  | [_] => none
  | x :: y :: rest =>
      if x = (mark, false) && y = (']', false) then some ([], rest)
      else (upToClosing mark (y :: rest)).map fun (name, more) => (x.1 :: name, more)

/-- A character as it is shown in a complaint. -/
def shownSign (c : Char) : Octets :=
  if 32 ≤ c.toNat && c.toNat < 127 then [c]
  else
    let ds := Nat.toDigits 8 c.toNat
    '\\' :: (List.replicate (3 - ds.length) '0' ++ ds)

/-- A repetition behind its opening bracket. -/
inductive Repetition where
  | absent
  | badCount (t : Octets)
  | found (c : Char) (count : Nat) (rest : List Sign)

/-- Read a repetition behind its opening bracket. -/
def repetition : List Sign → Repetition
  | (c, _) :: ('*', false) :: more =>
      let inner := more.takeWhile fun s => !s.2 && s.1 != ']'
      match more.drop inner.length with
      | (']', false) :: rest =>
          let ds := inner.map (·.1)
          let base := if ds.head? = some '0' then 8 else 10
          let (n, _, after) := Signed64.digits base 0 ds
          if after = [] && n < Natural.twoTo 64 then .found c n rest else .badCount ds
      | _ => .absent
  | _ => .absent

/-- A star, digits and a bracket stand at the beginning. -/
def looksRepeated : List Sign → Bool
  | ('*', false) :: more =>
      ((more.dropWhile fun s => s.1.isDigit).head?.map (·.1)) = some ']'
  | _ => false

/-- The parts of a set; the number bounds the length. -/
def parts (c : Call) : Nat → List Sign → Except Octets (List SetPart)
  | 0, _ => .ok []
  | _, [] => .ok []
  | n + 1, s :: rest => do
      let plain : Except Octets (List SetPart) :=
        match rest with
        | ('-', false) :: (b, _) :: more =>
            if b < s.1 then
              .error (text "range-endpoints of '" ++ shownSign s.1 ++ '-' :: shownSign b ++
                text "' are in reverse collating sequence order")
            else do return .range s.1 b :: (← parts c n more)
        | _ => do return .one s.1 :: (← parts c n rest)
      let repeated : Except Octets (List SetPart) :=
        match repetition rest with
        | .found x k more => do
            return .many x (if k = 0 then none else some k) :: (← parts c n more)
        | .badCount ds =>
            .error (text "invalid repeat count " ++ c.quote ds ++ text " in [c*n] construct")
        | .absent => plain
      if s ≠ ('[', false) then plain
      else match rest with
        | [] => plain
        | (mark, _) :: more =>
            if mark ≠ ':' && mark ≠ '=' then repeated
            else match upToClosing mark more with
              | none => repeated
              | some ([], _) =>
                  .error (text (if mark = ':' then "missing character class name '[::]'"
                    else "missing equivalence class character '[==]'"))
              | some (name@(_ :: _), after) =>
                  let found : Option SetPart :=
                    if mark = ':' then
                      (Encoding.class? .bytes name).map fun f => .named name (all.filter f)
                    else match name with
                      | [x] => some (.alike x)
                      | _ => none
                  match found with
                  | some part => return part :: (← parts c n after)
                  | none =>
                      if looksRepeated more then repeated
                      else if mark = ':' then
                        .error (text "invalid character class " ++
                          c.quote (name.flatMap shownSign))
                      else .error (name.flatMap shownSign ++
                        text ": equivalence class operand must be a single character")

/-- Read a set of characters: its parts, and warnings. -/
def read (c : Call) (t : Octets) : Except Octets (List SetPart × Warnings) :=
  let (ss, ws) := signs (t.length + 1) t
  (parts c (ss.length + 1) ss).map (·, ws)

/-- How many characters there are, repetitions without a number apart. -/
def size (ps : List SetPart) : Nat := Natural.total (ps.map fun p => (SetPart.members 0 p).length)

/-- The characters of a set, filled up to a size where that is asked for. -/
def fill (target : Nat) (ps : List SetPart) : Octets :=
  ps.flatMap (SetPart.members (target - size ps))

/-- How many repetitions without a number there are. -/
def openRepetitions (ps : List SetPart) : Nat :=
  (ps.filter fun
    | .many _ none => true
    | _ => false).length

/-- The part is a class of large or of small letters. -/
def isCase : SetPart → Bool
  | .named name _ => name = text "upper" || name = text "lower"
  | _ => false

/-- Where the parts begin among the characters, with whether they are classes of letters. -/
def caseStarts (target : Nat) (ps : List SetPart) : List (Nat × Bool) :=
  let gap := target - size ps
  (ps.foldl (fun ((n, found) : Nat × List (Nat × Bool)) p =>
    (n + (SetPart.members gap p).length, (n, isCase p) :: found)) (0, [])).2

end CharacterSet

end SkipAudit.Utility
