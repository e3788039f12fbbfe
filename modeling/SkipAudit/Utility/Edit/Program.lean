/-
Programs that edit texts line by line.

Such a program is a list of commands.  It is carried out for each line of the input, in a
space that holds the line; a command is carried out only for the lines that it is meant for.
-/
import SkipAudit.Regex.Basic

namespace SkipAudit.Edit

/-- A line that commands may be meant for. -/
inductive Address where
  | number (n : Nat)
  | last
  /-- From a line on each so-many-th one. -/
  | every (first step : Nat)
  /-- A line that matches; without an expression, the one that was used last. -/
  | matching (r? : Option Regex)

/-- Where a range of lines ends. -/
inductive RangeEnd where
  | address (a : Address)
  /-- So many lines later. -/
  | later (n : Nat)
  /-- At the next line whose number is a multiple. -/
  | multiple (n : Nat)

/-- The lines that a command is meant for. -/
structure Selection where
  first? : Option Address
  until? : Option RangeEnd
  /-- It is meant for all the others. -/
  isInverted : Bool

/-- It has to be known which line is the last. -/
def Selection.asksForLast (s : Selection) : Bool :=
  (match s.first? with
    | some .last => true
    | _ => false) ||
  (match s.until? with
    | some (.address .last) => true
    | _ => false)

/-- A change of case in a replacement. -/
inductive CaseChange where
  | upper
  | lower
  | firstUpper
  | firstLower
  | none
deriving DecidableEq, Repr

/-- A part of a replacement. -/
inductive Piece where
  | chars (t : Octets)
  /-- What a group has matched; the group zero is everything. -/
  | group (n : Nat)
  | casing (c : CaseChange)
deriving DecidableEq, Repr

/-- How matches are replaced. -/
structure Substitution where
  /-- Nothing stands for the expression that was used last. -/
  regex? : Option Regex
  replacement : List Piece
  /-- The first match that is replaced. -/
  nth : Nat
  /-- All later ones are replaced as well. -/
  isGlobal : Bool
  prints : Bool
  /-- The result is a command for the shell, and what it writes takes its place. -/
  executes : Bool
  file? : Option Octets

/-- What a command does. -/
inductive Deed where
  | openBlock
  | closeBlock
  | append (t : Octets)
  | insert (t : Octets)
  | change (t : Octets)
  | label (name : Octets)
  | jump (label : Octets)
  /-- Jump if something has been replaced in this line. -/
  | jumpIf (label : Octets)
  | jumpUnless (label : Octets)
  | delete
  | deleteFirst
  | hold
  | holdMore
  | fetch
  | fetchMore
  | exchange
  /-- Show the line unambiguously, in lines of some width if that is said. -/
  | list (width? : Option Nat)
  | next
  | nextMore
  | print
  | printFirst
  | printNumber
  | quit (status : Nat) (isSilent : Bool)
  | readFile (file : Octets)
  /-- Queue the next line of a file. -/
  | readLine (file : Octets)
  | writeFile (file : Octets)
  | writeFirst (file : Octets)
  /-- Run a command, or the line as one. -/
  | execute (command : Octets)
  | substitute (s : Substitution)
  | translate (pairs : List (Char × Char))
  | clear
  | printName

/-- A command. -/
structure Command where
  selection : Selection
  deed : Deed

/-- A program. -/
abbrev Program := List Command

namespace Program

/-- The place of a label. -/
def placeOf? (p : Program) (name : Octets) : Option Nat :=
  p.findIdx? fun c => match c.deed with
    | .label n => n = name
    | _ => false

/-- The label that some command jumps to although there is none. -/
def missingLabel? (p : Program) : Option Octets :=
  p.findSome? fun c => match c.deed with
    | .jump n | .jumpIf n | .jumpUnless n =>
        if n = [] || (p.placeOf? n).isSome then none else some n
    | _ => none

/-- How many commands stand between here and the end of the block, that end included. -/
def blockLength : Nat → Program → Nat
  | _, [] => 0
  | depth, c :: cs =>
      match c.deed with
      | .openBlock => blockLength (depth + 1) cs + 1
      | .closeBlock => if depth = 0 then 1 else blockLength (depth - 1) cs + 1
      | _ => blockLength depth cs + 1

end Program

end SkipAudit.Edit
