/-
Giving every test block exactly one skip line.

`markBlocks` reads the lines of a file once, from top to bottom.  A block that has a skip
line keeps the first one and loses the others; a block without one gets a provisional
skip line when its end is reached.  The new line stands

* after the last of the backend checks that open the block, when there are any, and
* right under the declaration otherwise, followed by a blank line.

What stands above the first declaration is copied.
-/
import SkipAudit.Marker

namespace SkipAudit

/-- A test block that is being read. -/
structure OpenBlock where
  /-- The declaration. -/
  head : Line
  /-- The lines under it that are kept. -/
  body : List Line
  /-- A skip line has been read. -/
  isMarked : Bool
  /-- How many lines of the body end with the last check for another backend that stands
  above every statement. -/
  anchor : Option Nat
  /-- A statement has been read: a line that is neither blank nor a skip line nor such a
  check. -/
  hasStatement : Bool
deriving Repr

namespace OpenBlock

/-- The block of a declaration, before the lines under it are read. -/
def start (head : Line) : OpenBlock := ⟨head, [], false, none, false⟩

/-- Keep a line. -/
def keep (b : OpenBlock) (l : Line) : OpenBlock := { b with body := b.body ++ [l] }

/-- Read the next line of the block. -/
def add (b : OpenBlock) (l : Line) : OpenBlock :=
  if l.isSkip then
    if b.isMarked then b else { b.keep l with isMarked := true }
  else if l.isCheck && !b.hasStatement then { b.keep l with anchor := some (b.body.length + 1) }
  else if l.isBlank then b.keep l
  else { b.keep l with hasStatement := true }

/-- Terminate the last of some lines. -/
def terminateLast (ending : Text) : List Line → List Line
  | [] => []
  | [l] => [l.terminateWith ending]
  | l :: ls => l :: terminateLast ending ls

/-- The lines of the finished block.  Lines that are put in end like the declaration, and
the line above them is terminated first: it may have been the last of the file. -/
def close (b : OpenBlock) : List Line :=
  let ending := b.head.terminator
  if b.isMarked then b.head :: b.body
  else match b.anchor with
    | some n =>
        b.head :: (terminateLast ending (b.body.take n) ++
          Line.provisionalSkip ending :: b.body.drop n)
    | none => b.head.terminateWith ending :: Line.provisionalSkip ending :: ending :: b.body

end OpenBlock

/-- Read lines, a block being open or not. -/
def markFrom : Option OpenBlock → List Line → List Line
  | none, [] => []
  | some b, [] => b.close
  | none, l :: ls =>
      if l.isDeclaration then markFrom (some (.start l)) ls else l :: markFrom none ls
  | some b, l :: ls =>
      if l.isDeclaration then b.close ++ markFrom (some (.start l)) ls
      else markFrom (some (b.add l)) ls

/-- The lines of a file with exactly one skip line in every test block. -/
def markBlocks (ls : List Line) : List Line := markFrom none ls

end SkipAudit
