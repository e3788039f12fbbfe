/-
What builtins have in common: how their options are read, and their numbers.
-/
import SkipAudit.Number.Signed64
import SkipAudit.Shell.Run

namespace SkipAudit.Shell

/-- A builtin: by the name under which it was called and its arguments it comes to a status. -/
abbrev Builtin := Evaluator → Position → Octets → List Octets → Run Nat

namespace Builtin

open Run

/-- The options of a builtin in front of its other arguments; a letter in front of a colon takes
a value. -/
def optionsWithin (letters : String) :
    Nat → Octets → List Octets → Run (List (Char × Octets) × List Octets)
  | 0, _, args => return ([], args)
  | n + 1, c :: word, args => do
      let known := text letters
      if c = ':' || !known.contains c then fail (text "Illegal option -" ++ [c])
      else if Text.startsWith [c, ':'] (known.dropWhile (· != c)) then
        match word, args with
        | [], [] => fail (text "No arg for -" ++ [c] ++ text " option")
        | [], a :: args =>
            let (os, rest) ← optionsWithin letters n [] args
            return ((c, a) :: os, rest)
        | word, args =>
            let (os, rest) ← optionsWithin letters n [] args
            return ((c, word) :: os, rest)
      else
        let (os, rest) ← optionsWithin letters n word args
        return ((c, []) :: os, rest)
  | n + 1, [], args =>
      match args with
      | ['-', '-'] :: args => return ([], args)
      | ('-' :: c :: word) :: args => optionsWithin letters n (c :: word) args
      | args => return ([], args)

/-- The options of a builtin in front of its other arguments. -/
def options (letters : String) (args : List Octets) :
    Run (List (Char × Octets) × List Octets) :=
  optionsWithin letters ((args.map fun a => a.length + 1).foldl (· + ·) 1) [] args

/-- The arguments of a builtin without options. -/
def plain (args : List Octets) : Run (List Octets) := do return (← options "" args).2

/-- Fail because of what should be a number. -/
def failNumber {α : Type} (t : Octets) : Run α := fail (text "Illegal number: " ++ t)

/-- The greatest number that a builtin takes. -/
def greatest : Int := Natural.twoTo 31 - 1

/-- The number that an argument is. -/
def number (t : Octets) : Run Nat := do
  match Signed64.decimal? t with
  | some n => if n < 0 ∨ greatest < n then failNumber t else return n.toNat
  | none => failNumber t

/-- A text between quotation marks, so that it is read as it is; the number bounds the length. -/
def quotedWithin : Nat → Octets → Octets
  | 0, _ => []
  | n + 1, t =>
      let front := t.takeWhile (· != '\'')
      let rest := t.drop front.length
      let marks := rest.takeWhile (· == '\'')
      '\'' :: front ++ ['\''] ++
        (if marks = [] then []
        else
          let more := rest.drop marks.length
          '"' :: marks ++ ['"'] ++ (if more = [] then [] else quotedWithin n more))

/-- A text between quotation marks, so that it is read as it is. -/
def quoted (t : Octets) : Octets := quotedWithin (t.length + 1) t

end Builtin

end SkipAudit.Shell
