/-
The lines of a text.

A line keeps its line feed, so the text is the concatenation of its lines
(`flatten_splitLines`): a file that is split, edited line by line and joined again
differs only where it was edited.  A carriage return before the line feed belongs to
the terminator, one elsewhere is an ordinary character.
-/
import SkipAudit.Text.Basic

namespace SkipAudit

/-- Cut a text after each line feed.  The empty text has no lines. -/
def splitLines : Text → List Line
  | [] => []
  | c :: t =>
      if c = '\n' then [c] :: splitLines t
      else match splitLines t with
        | [] => [[c]]
        | l :: ls => (c :: l) :: ls

theorem flatten_splitLines (t : Text) : (splitLines t).flatten = t := by
  induction t with
  | nil => rfl
  | cons c t ih =>
      simp only [splitLines]
      split
      · simp [ih]
      · split
        · rename_i h
          simp [h] at ih
          simp [← ih]
        · rename_i l ls h
          simp [h] at ih
          simp [ih]

namespace Line

/-- The line without its terminator: one line feed, then one carriage return. -/
def body (l : Line) : Text := Text.dropFinal '\r' (Text.dropFinal '\n' l)

/-- The line ends in a line feed. -/
def isTerminated (l : Line) : Bool := l.getLast? == some '\n'

/-- The carriage return and line feed of a line in that style. -/
def crlf : Text := ['\r', '\n']

/-- The plain line feed. -/
def lf : Text := ['\n']

/-- The terminator in the style of `l`: an unterminated line counts as one that
ends in a line feed. -/
def terminator (l : Line) : Text := if Text.endsWith crlf l then crlf else lf

/-- `l`, ended by `ending` unless it ends in a line feed already. -/
def terminateWith (ending : Text) (l : Line) : Line :=
  if l.isTerminated then l else l ++ ending

end Line

end SkipAudit
