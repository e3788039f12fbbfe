/-
Reading a script character by character.

A reader has the text that is left, the number of the line that it is on, and what it knows of
the tokens before.  The text may be a part of the script only: where it ends while more may
come, reading is broken off, to be begun again with more text.
-/
import SkipAudit.Number.Natural
import SkipAudit.Shell.Syntax

namespace SkipAudit.Shell

/-! ## Tokens -/

/-- The words that have a meaning of their own where a command may begin. -/
inductive Reserved where
  | bang
  | caseOf
  | doWord
  | doneWord
  | elifWord
  | elseWord
  | esacWord
  | fiWord
  | forWord
  | ifWord
  | inWord
  | thenWord
  | untilWord
  | whileWord
  | leftBrace
  | rightBrace
deriving DecidableEq, Repr

/-- A token; the word itself stands in the reader. -/
inductive Token where
  | ended
  | newline
  | semicolon
  | ampersand
  | andThen
  | orElse
  | pipe
  | leftParen
  | rightParen
  | caseEnd
  | redirection
  | word
  | reserved (r : Reserved)
deriving DecidableEq, Repr

namespace Reserved

/-- All reserved words. -/
def all : List (Reserved × String) :=
  [(.bang, "!"), (.caseOf, "case"), (.doWord, "do"), (.doneWord, "done"), (.elifWord, "elif"),
   (.elseWord, "else"), (.esacWord, "esac"), (.fiWord, "fi"), (.forWord, "for"),
   (.ifWord, "if"), (.inWord, "in"), (.thenWord, "then"), (.untilWord, "until"),
   (.whileWord, "while"), (.leftBrace, "\x7b"), (.rightBrace, "\x7d")]

/-- How a reserved word is written. -/
def spelling (r : Reserved) : Octets := text ((all.lookup r).getD "")

/-- The reserved word that a text is. -/
def ofText? (t : Octets) : Option Reserved := (all.find? fun e => text e.2 == t).map (·.1)

end Reserved

namespace Token

/-- How a token is named in a complaint. -/
def shown : Token → Octets
  | .ended => text "end of file"
  | .newline => text "newline"
  | .semicolon => text "\";\""
  | .ampersand => text "\"&\""
  | .andThen => text "\"&&\""
  | .orElse => text "\"||\""
  | .pipe => text "\"|\""
  | .leftParen => text "\"(\""
  | .rightParen => text "\")\""
  | .caseEnd => text "\";;\""
  | .redirection => text "redirection"
  | .word => text "word"
  | .reserved r => '"' :: (r.spelling ++ ['"'])

/-- The token ends a list of commands. -/
def endsList : Token → Bool
  | .ended | .rightParen | .caseEnd => true
  | .reserved r =>
      [.doWord, .doneWord, .elifWord, .elseWord, .esacWord, .fiWord, .thenWord,
        .rightBrace].contains r
  | _ => false

end Token

/-! ## Readers -/

/-- What the next token may be taken for. -/
structure Expected where
  /-- Newlines in front of it do not count. -/
  newlines : Bool
  reserved : Bool
  aliases : Bool
  /-- It marks the end of a document. -/
  endMark : Bool
deriving DecidableEq, Repr

namespace Expected

def nothing : Expected := ⟨false, false, false, false⟩
def command : Expected := ⟨false, true, true, false⟩
def commandLater : Expected := ⟨true, true, true, false⟩

/-- What one or the other expects. -/
def or (a b : Expected) : Expected :=
  ⟨a.newlines || b.newlines, a.reserved || b.reserved, a.aliases || b.aliases,
    a.endMark || b.endMark⟩

end Expected

/-- A text that is read before what comes behind it: it may stand for an alias. -/
structure Frame where
  text : Octets
  name? : Option Octets
deriving DecidableEq, Repr

/-- The beginning of a redirection, whose word is still to come. -/
inductive Arrow where
  | file (opening : Opening)
  | copy
  | document (stripsTabs : Bool)
deriving DecidableEq, Repr

/-- A document that has been announced and is still to be read. -/
structure Announced where
  number : Nat
  endMark : Octets
  stripsTabs : Bool
  expands : Bool
deriving DecidableEq, Repr

/-- A reader. -/
structure Reader where
  /-- The text that is left, the first part first. -/
  frames : List Frame
  line : Nat
  /-- Nothing comes behind the text. -/
  isComplete : Bool
  aliases : List (Octets × Octets)
  expected : Expected
  /-- The last token is to be read once more. -/
  isHeld : Bool
  last : Token
  /-- The last word, and whether a part of it was quoted. -/
  word : Word
  isQuoted : Bool
  /-- The descriptor and the kind of the last redirection. -/
  arrow : Nat × Arrow
  announced : List Announced
  nextDocument : Nat
  /-- Documents by number: those known from an earlier reading, and those found in this one. -/
  known : List (Nat × Word)
  found : List (Nat × Word)

/-- Why reading breaks off. -/
inductive Fault where
  | incomplete
  | badSyntax (line : Nat) (message : Octets)
deriving DecidableEq, Repr

/-- Reading something. -/
abbrev Parse (α : Type) := StateT Reader (Except Fault) α

namespace Parse

/-- More rounds than there are characters in any script. -/
def rounds : Nat := Natural.tenTo 15

/-- Read over and over, until there is a result. -/
def iterate {σ α : Type} (f : σ → Parse (σ ⊕ α)) : Nat → σ → Parse α
  | 0, _ => throw .incomplete
  | n + 1, s => do
      match ← f s with
      | .inl s => iterate f n s
      | .inr a => return a

/-- Break off because the script is not well formed. -/
def fail {α : Type} (message : Octets) : Parse α := do
  throw (.badSyntax (← get).line message)

/-- Break off at a token that may not come here. -/
def unexpected {α : Type} (wanted? : Option Token) : Parse α := do
  let t := (← get).last.shown
  match wanted? with
  | some w => fail (t ++ text " unexpected (expecting " ++ w.shown ++ text ")")
  | none => fail (t ++ text " unexpected")

/-! ## Characters -/

/-- A space or a tab. -/
def isBlank (c : Char) : Bool := c == ' ' || c == '\t'

/-- The alias is being read already. -/
def isInUse (name : Octets) : Parse Bool := do
  return (← get).frames.any fun f => f.name? == some name

/-- The next character, or nothing at the end. -/
def next : Parse (Option Char) :=
  iterate (fun () => do
    let r ← get
    match r.frames with
    | ⟨c :: t, name?⟩ :: fs =>
        let stays := t ≠ [] || name?.isSome || fs = []
        let aliases := t = [] && name?.isSome && isBlank c
        set { r with
          frames := if stays then ⟨t, name?⟩ :: fs else fs
          expected := if aliases then { r.expected with aliases := true } else r.expected }
        return .inr (some c)
    | ⟨[], _⟩ :: f :: fs =>
        set { r with frames := f :: fs }
        return .inl ()
    | _ => if r.isComplete then return .inr none else throw .incomplete) rounds ()

/-- Put text back, to be read next. -/
def putBack (t : Octets) : Parse Unit := do
  if t ≠ [] then
    modify fun r =>
      match r.frames with
      | f :: fs => { r with frames := { f with text := t ++ f.text } :: fs }
      | [] => { r with frames := [⟨t, none⟩] }

/-- Put a character back, if it was one. -/
def putBackChar (c? : Option Char) : Parse Unit := putBack c?.toList

/-- One more line has been read. -/
def countLine : Parse Unit := modify fun r => { r with line := r.line + 1 }

/-- The next character behind all continued lines. -/
def nextJoined : Parse (Option Char) :=
  iterate (fun () => do
    match ← next with
    | some '\\' =>
        match ← next with
        | some '\n' =>
            countLine
            return .inl ()
        | c? =>
            putBackChar c?
            return .inr (some '\\')
    | c? => return .inr c?) rounds ()

/-- Whether the next character is a certain one; if so, it is read. -/
def nextIs (c : Char) : Parse Bool := do
  let d? ← nextJoined
  if d? = some c then return true
  else
    putBackChar d?
    return false

end Parse

end SkipAudit.Shell
