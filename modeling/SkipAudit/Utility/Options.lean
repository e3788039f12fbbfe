/-
Options of programs.

A short option is a letter behind a hyphen, and several of them may stand together; a long one
is a word behind two hyphens, and may be shortened as long as it is clear.  The first two
hyphens alone end the options.  An option that is known by a word alone has a small Greek letter
in the place of its letter.
-/
import SkipAudit.Utility.Basic

namespace SkipAudit.Utility

/-- Whether an option has a value. -/
inductive Arity where
  | none
  | needed
  | optional
deriving DecidableEq, Repr

/-- A word that stands for an option. -/
abbrev Word := String × Char × Arity

/-- The options that a program knows. -/
structure Known where
  /-- The letters; one colon behind a letter means a value, two a value that may be missing. -/
  letters : String
  /-- The words, with the letter that each of them stands for. -/
  words : List Word
  /-- Options stand in front of everything else. -/
  isOrdered : Bool

/-- Options with their values, and everything else. -/
structure Parsed where
  options : List (Char × Octets)
  rest : List Octets

namespace Parsed

/-- An option was given. -/
def has (p : Parsed) (c : Char) : Bool := p.options.any (·.1 == c)

/-- The values of an option, in order. -/
def values (p : Parsed) (c : Char) : List Octets := (p.options.filter (·.1 == c)).map (·.2)

/-- The last value of an option. -/
def value? (p : Parsed) (c : Char) : Option Octets := (p.values c).getLast?

/-- The last of some options that was given. -/
def lastOf? (p : Parsed) (cs : List Char) : Option Char :=
  ((p.options.filter fun o => cs.contains o.1).getLast?).map (·.1)

/-- With one more option in front. -/
def option (c : Char) (value : Octets) (p : Parsed) : Parsed :=
  { p with options := (c, value) :: p.options }

/-- With one more argument in front. -/
def argument (a : Octets) (p : Parsed) : Parsed := { p with rest := a :: p.rest }

end Parsed

namespace Known

/-- Whether the option with a letter has a value. -/
def arity? (letters : Text) (c : Char) : Option Arity :=
  match letters with
  | [] => none
  | d :: rest =>
      if c = d && c ≠ ':' then
        some (if Text.startsWith [':', ':'] rest then .optional
          else if Text.startsWith [':'] rest then .needed else .none)
      else arity? rest c

/-- The words that a word may be short for. -/
def wordsFor (k : Known) (w : Octets) : List Word :=
  match k.words.find? fun x => text x.1 == w with
  | some x => [x]
  | none => k.words.filter fun x => w.isPrefixOf (text x.1)

/-- The complaint about a word that may be short for several. -/
def ambiguous (w : Octets) (found : List Word) : Octets :=
  text "option '--" ++ w ++ text "' is ambiguous; possibilities:" ++
    found.flatMap fun x => text " '--" ++ text x.1 ++ ['\'']

/-- What is wrong with options, and the options in front of that. -/
structure Misuse where
  before : List (Char × Octets)
  message : Octets

/-- Options with one more in front. -/
def withOption (c : Char) (value : Octets) : Except Misuse Parsed → Except Misuse Parsed
  | .ok p => .ok (p.option c value)
  | .error m => .error { m with before := (c, value) :: m.before }

/-- Read the arguments; the number bounds how many letters and words there are. -/
def parseWithin (k : Known) : Nat → Octets → List Octets → Except Misuse Parsed
  | 0, _, args => .ok ⟨[], args⟩
  | n + 1, c :: cs, args =>
      match arity? k.letters.toList c with
      | none => .error ⟨[], text "invalid option -- '" ++ c :: text "'"⟩
      | some .none => withOption c [] (parseWithin k n cs args)
      | some .optional => withOption c cs (parseWithin k n [] args)
      | some .needed =>
          match cs, args with
          | [], [] => .error ⟨[], text "option requires an argument -- '" ++ c :: text "'"⟩
          | [], a :: args => withOption c a (parseWithin k n [] args)
          | cs, args => withOption c cs (parseWithin k n [] args)
  | n + 1, [], args =>
      match args with
      | [] => .ok ⟨[], []⟩
      | ['-', '-'] :: args => .ok ⟨[], args⟩
      | ('-' :: '-' :: word) :: args =>
          let (w, value) := word.span (· != '=')
          match k.wordsFor w with
          | [] => .error ⟨[], text "unrecognized option '--" ++ word ++ ['\'']⟩
          | (long, c, arity) :: others =>
              if others.any fun x => x.2.1 != c then
                .error ⟨[], ambiguous w ((long, c, arity) :: others)⟩
              else match arity, value, args with
                | .none, [], args => withOption c [] (parseWithin k n [] args)
                | .none, _, _ =>
                    .error ⟨[], text "option '--" ++ text long ++
                      text "' doesn't allow an argument"⟩
                | .needed, [], [] =>
                    .error ⟨[], text "option '--" ++ text long ++ text "' requires an argument"⟩
                | .needed, [], a :: args => withOption c a (parseWithin k n [] args)
                | _, value, args => withOption c (value.drop 1) (parseWithin k n [] args)
      | ('-' :: c :: cs) :: args => parseWithin k n (c :: cs) args
      | a :: args =>
          if k.isOrdered then .ok ⟨[], a :: args⟩
          else (parseWithin k n [] args).map (Parsed.argument a)

/-- Read the arguments. -/
def parse (k : Known) (args : List Octets) : Except Misuse Parsed :=
  k.parseWithin (Natural.total (args.map fun a => a.length + 1) + 1) [] args

/-- The letters of the options that every program knows: for help, and for its version. -/
def helpLetter : Char := 'η'
def versionLetter : Char := 'ν'

/-- The words for these. -/
def commonWords : List Word := [("help", helpLetter, .none), ("version", versionLetter, .none)]

end Known

/-- The collections to which programs belong, with their versions: those of some names, and the one
of all others. -/
def versions : List (List String × String) :=
  [(["cmp"], " (GNU diffutils) 3.8"), (["dd"], " (coreutils) 9.1"),
   (["find", "xargs"], " (GNU findutils) 4.9.0"),
   (["grep", "egrep", "fgrep"], " (GNU grep) 3.8"), (["sed"], " (GNU sed) 4.9")]

/-- The version of all others. -/
def usualVersion : String := " (GNU coreutils) 9.1"

/-- The version of the program with a name. -/
def versionOf (name : Octets) : Octets :=
  text (((versions.find? fun x => x.1.any (text · == name)).map (·.2)).getD usualVersion)

/-- What a program says of itself, if it is asked for that before anything else is wrong. -/
def aboutItself? (c : Call) (options : List (Char × Octets)) : Option Octets :=
  let name := (Text.cutAt '/' c.name).getLastD []
  (options.find? fun o => o.1 == Known.helpLetter || o.1 == Known.versionLetter).map fun o =>
    if o.1 = Known.helpLetter then text "Usage: " ++ c.name ++ text " [OPTION]...\n"
    else name ++ versionOf name ++ ['\n']

/-- Read the options of a program, and go on with them; `status` is that of a misuse. -/
def withKnown (status : Nat) (k : Known) (c : Call) (f : Parsed → Action Nat) : Action Nat := do
  let k := { k with
    words := k.words ++ Known.commonWords
    isOrdered := k.isOrdered || (c.valueOf? "POSIXLY_CORRECT").isSome }
  let r := k.parse c.args
  let options := match r with
    | .ok p => p.options
    | .error m => m.before
  match aboutItself? c options, r with
  | some t, _ => do
      say c t
      return 0
  | none, .error m => c.misused status m.message
  | none, .ok p => f p

/-- Read the options of a program, which may stand anywhere. -/
def withOptions (status : Nat) (letters : String) (words : List Word) (c : Call)
    (f : Parsed → Action Nat) : Action Nat :=
  withKnown status ⟨letters, words, false⟩ c f

/-- Read the options of a program that stand in front of everything else. -/
def withLeadingOptions (status : Nat) (letters : String) (words : List Word) (c : Call)
    (f : Parsed → Action Nat) : Action Nat :=
  withKnown status ⟨letters, words, true⟩ c f

/-! ## Words as values -/

/-- The values that a word may be short for, from a table: those with the word itself, or else
those that begin with it. -/
def fromTable {α : Type} (table : List (String × α)) (w : Octets) : List (String × α) :=
  match table.find? fun x => text x.1 == w with
  | some x => [x]
  | none => table.filter fun x => w.isPrefixOf (text x.1)

/-- The valid values of an option, as they are listed below a complaint: those that mean the same
stand on one line. -/
def validLines (c : Call) {α : Type} [DecidableEq α] : Option α → List (String × α) → Octets
  | _, [] => ['\n']
  | last?, (w, a) :: rest =>
      (if last? = some a then text ", " else text "\n  - ") ++ c.quote (text w) ++
        validLines c (some a) rest

/-- Complain of the value of an option, with those that are valid, and end. -/
def refuseWord {α β : Type} [DecidableEq α] (status : Nat) (c : Call) (option : String)
    (table : List (String × α)) (what : String) (w : Octets) : Action β := do
  let _ ← Action.write 2 (c.complaint (text what ++ c.quote w ++ text " for " ++
    c.quote (text option)) ++ text "Valid arguments are:" ++ validLines c none table ++ c.hint)
  Action.exit status

/-- Read the value of an option as a word from a table; another word ends the program. -/
def chosen {α : Type} [DecidableEq α] (status : Nat) (c : Call) (option : String)
    (table : List (String × α)) (w : Octets) : Action α := do
  match fromTable table w with
  | (_, a) :: others =>
      if others.all (·.2 = a) then return a
      else refuseWord status c option table "ambiguous argument " w
  | [] => refuseWord status c option table "invalid argument " w

/-- The same where the word has to be whole. -/
def chosenExactly {α : Type} [DecidableEq α] (status : Nat) (c : Call) (option : String)
    (table : List (String × α)) (w : Octets) : Action α := do
  match table.find? fun x => text x.1 == w with
  | some x => return x.2
  | none => refuseWord status c option table "invalid argument " w

end SkipAudit.Utility
