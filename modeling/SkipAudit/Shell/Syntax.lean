/-
The language of shell scripts.

A script is a sequence of commands; the words of a command are rows of segments, which are
expanded when the command is carried out.  Everything is octets: no part of the language takes
notice of the encoding.
-/
import SkipAudit.Text.Octets

namespace SkipAudit.Shell

/-- The end of a value that something is taken off from. -/
inductive Side where
  | front
  | back
deriving DecidableEq, Repr

/-- What the word behind a parameter is for. -/
inductive Fallback where
  /-- It stands for a value that is missing. -/
  | instead
  /-- It becomes the value that is missing. -/
  | assigned
  /-- It says what is wrong if the value is missing. -/
  | demanded
  /-- It stands for a value that is not missing. -/
  | ifPresent
deriving DecidableEq, Repr

/-- How a redirection opens a file. -/
inductive Opening where
  | input
  | output
  /-- Output, even to a file that is protected by the option for that. -/
  | clobbering
  | appended
  | both
deriving DecidableEq, Repr

mutual

/-- A part of a word. -/
inductive Segment where
  /-- Characters; escaped ones mean nothing but themselves. -/
  | chars (text : Octets) (escaped : Bool)
  /-- A quotation mark, at either end of what it surrounds. -/
  | mark
  | parameter (name : Octets) (use : Use)
  /-- What a command writes. -/
  | output (body : Option Command)
  | arithmetic (expression : List Segment)

/-- What is taken of a parameter. -/
inductive Use where
  | value
  | length
  /-- `orEmpty`: an empty value counts as a missing one. -/
  | fallback (kind : Fallback) (orEmpty : Bool) (word : List Segment)
  | trimmed (side : Side) (longest : Bool) (pattern : List Segment)
  | invalid

/-- A redirection of a descriptor. -/
inductive Redirection where
  | file (fd : Nat) (opening : Opening) (word : List Segment)
  | copy (fd source : Nat)
  | close (fd : Nat)
  /-- The descriptor to copy, or that there is none, comes out of a word. -/
  | copyNamed (fd : Nat) (word : List Segment)
  | document (fd : Nat) (body : List Segment)

/-- A command; `line` is the line that it begins on. -/
inductive Command where
  | simple (line : Nat) (assignments words : List (List Segment))
      (redirections : List Redirection)
  | pipeline (inBackground : Bool) (parts : List Command)
  | both (first second : Command)
  | either (first second : Command)
  | sequence (first second : Command)
  | negated (body : Command)
  | background (line : Nat) (body : Command) (redirections : List Redirection)
  | subshell (line : Nat) (body : Command) (redirections : List Redirection)
  | redirected (line : Nat) (body : Command) (redirections : List Redirection)
  | conditional (test positive : Command) (negative : Option Command)
  /-- Repeated as long as the test gives what is `wanted`. -/
  | loop (wanted : Bool) (test body : Command)
  | forEach (line : Nat) (name : Octets) (words : List (List Segment)) (body : Command)
  | choice (line : Nat) (subject : List Segment)
      (arms : List (List (List Segment) × Option Command))
  | definition (name : Octets) (body : Command)

end

/-- A word. -/
abbrev Word := List Segment

/-- A parameter that is the value of nothing but itself. -/
def Segment.allArguments : Segment := .parameter ['@'] .value

/-- The text of a word in which nothing is quoted and nothing is expanded. -/
def Word.plain? : Word → Option Octets
  | [] => some []
  | .chars t false :: rest => (Word.plain? rest).map (t ++ ·)
  | _ => none

/-! ## Names -/

/-- A character that a name may begin with. -/
def isNameStart (c : Char) : Bool := c.isAlpha || c == '_'

/-- A character that a name may go on with. -/
def isNameChar (c : Char) : Bool := c.isAlphanum || c == '_'

/-- A name of a variable or of a function. -/
def isName : Octets → Bool
  | [] => false
  | c :: cs => isNameStart c && cs.all isNameChar

/-- The name and the value of an assignment. -/
def assignment? (t : Octets) : Option (Octets × Octets) :=
  match t.span isNameChar with
  | (name, '=' :: value) => if isName name then some (name, value) else none
  | _ => none

/-- A word is an assignment by its beginning. -/
def Word.isAssignment : Word → Bool
  | .chars t false :: _ => (assignment? t).isSome
  | _ => false

end SkipAudit.Shell
