/-
What is asked of entries in a search, and what is done with them.
-/
import SkipAudit.Format.Directive
import SkipAudit.Regex.Basic
import SkipAudit.Utility.Globs
import SkipAudit.Utility.Sizes

namespace SkipAudit.Utility.Finding

/-- How a number has to stand to another one. -/
inductive Amount where
  | less (n : Nat)
  | exactly (n : Nat)
  | more (n : Nat)
deriving DecidableEq

/-- A number stands to another one as it has to. -/
def Amount.admits (a : Amount) (k : Int) : Bool :=
  match a with
  | .less n => k < n
  | .exactly n => k = n
  | .more n => n < k

/-- Which time of an entry counts. -/
inductive Time where
  | accessed
  | modified
  | changed
deriving DecidableEq

/-- The time of an entry. -/
def Time.of (t : Time) (e : Entry) : Int :=
  match t with
  | .accessed => e.attributes.accessed
  | .modified => e.attributes.modified
  | .changed => e.attributes.changed

/-- How permissions have to stand to those that are given. -/
inductive Match where
  | exactly
  | all
  | any
deriving DecidableEq

/-- Where something is written. -/
inductive Target where
  | output
  | file (path : Octets)
deriving DecidableEq

/-- A piece of a format. -/
inductive Piece where
  | words (t : Octets)
  /-- Nothing more is written. -/
  | stop
  | field (d : Format.Directive) (letter : Char)
  | time (d : Format.Directive) (which : Time) (letter : Char)

/-- A program that is run for entries. -/
structure Command where
  words : List Octets
  /-- It is run once for many entries; the number tells it from other such programs. -/
  batch? : Option Nat
  /-- It is run where the entry is. -/
  isThere : Bool
  asks : Bool
deriving DecidableEq

/-- A condition for entries, or something that is done with them. -/
inductive Test where
  | name (g : Glob)
  | path (g : Glob)
  | linkTarget (g : Glob)
  | matching (r : Regex)
  | kind (letters : List Char) (ofTarget : Bool)
  | size (a : Amount) (unit : Nat)
  | isEmpty
  /-- The age in whole days; the time is that of now. -/
  | days (now : Int) (t : Time) (a : Amount)
  | minutes (now : Int) (t : Time) (a : Amount)
  | newer (t : Time) (than : Int)
  | mode (m : Match) (forFiles forDirectories : Nat)
  | owner (a : Amount)
  | group (a : Amount)
  | hasNoOwner
  | hasNoGroup
  | names (a : Amount)
  | number (a : Amount)
  | same (e : Entry)
  | isExecutable
  | constant (b : Bool)
  | prune
  | quit
  | delete
  | print (target : Target) (lineEnd : Char)
  | format (target : Target) (pieces : List Piece)
  | list (target : Target)
  | run (c : Command)
  | not (t : Test)
  | both (a b : Test)
  | either (a b : Test)
  /-- One after the other; only the second one counts. -/
  | inTurn (a b : Test)

namespace Test

/-- Something is done with the entries, so that they need not be shown. -/
def acts : Test → Bool
  | .print .. | .format .. | .list _ | .delete | .run _ => true
  | .not t => t.acts
  | .both a b | .either a b | .inTurn a b => a.acts || b.acts
  | _ => false

/-- Some test is found within. -/
def includes (f : Test → Bool) : Test → Bool
  | .not t => includes f t
  | .both a b | .either a b | .inTurn a b => includes f a || includes f b
  | t => f t

/-- The name and the kind of an entry are enough. -/
def needsLittle : Test → Bool
  | .name _ | .path _ | .matching _ | .kind .. | .constant _ | .prune | .quit | .print .. => true
  | .run _ | .delete => true
  | .not t => t.needsLittle
  | .both a b | .either a b | .inTurn a b => a.needsLittle && b.needsLittle
  | _ => false

/-- The files that are written. -/
def files : Test → List Octets
  | .print (.file p) _ | .format (.file p) _ | .list (.file p) => [p]
  | .not t => t.files
  | .both a b | .either a b | .inTurn a b => a.files ++ b.files
  | _ => []

/-- The programs that are run for many entries at once. -/
def batches : Test → List Command
  | .run c => if c.batch?.isSome then [c] else []
  | .not t => t.batches
  | .both a b | .either a b | .inTurn a b => a.batches ++ b.batches
  | _ => []

end Test

/-- An entry that is met. -/
structure Item where
  path : Octets
  /-- Where the search began. -/
  start : Octets
  depth : Nat
  entry : Entry

/-- The last name of a path, with slashes behind it if there are some. -/
def baseOf (path : Octets) : Octets :=
  let bare := (path.reverse.dropWhile (· == '/')).reverse
  if bare = [] then path
  else (bare.reverse.takeWhile (· != '/')).reverse ++ path.drop bare.length

/-- The part of a path in front of its last slash. -/
def placeOf (path : Octets) : Octets :=
  if path.contains '/' then ((path.reverse.dropWhile (· != '/')).drop 1).reverse else ['.']

/-- The name of an item for patterns. -/
def Item.name (x : Item) : Octets :=
  let t := baseOf x.path
  let bare := (t.reverse.dropWhile (· == '/')).reverse
  if bare = [] then ['/'] else bare

/-- The letter for a kind of entries. -/
def letterOf (e : Entry) : Char := if kindLetter e = '-' then 'f' else kindLetter e

end SkipAudit.Utility.Finding
