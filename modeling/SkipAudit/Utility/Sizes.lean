/-
How sizes of files are shown: in blocks of some size, or as people like to read them.
-/
import SkipAudit.Utility.Magnitude
import SkipAudit.Utility.Quantity

namespace SkipAudit.Utility

/-- How sizes are shown. -/
inductive SizeStyle where
  /-- In blocks of so many bytes, with some letters behind the number. -/
  | blocks (bytes : Nat) (letters : Octets)
  /-- With a letter for a power of a base. -/
  | powers (base : Nat)
deriving DecidableEq

namespace SizeStyle

/-- In bytes. -/
def bytes : SizeStyle := .blocks 1 []

/-- In blocks of the usual size. -/
def usual (c : Call) : SizeStyle :=
  .blocks (if (c.valueOf? "POSIXLY_CORRECT").isSome then 512 else 1024) []

/-- A size in this style. -/
def write : SizeStyle → Nat → Octets
  | .blocks n letters, size => Text.ofNat ((size + n - 1) / n) ++ letters
  | .powers base, size => (Magnitude.mk base true).write size

/-- The words for styles. -/
def words : List (String × SizeStyle) := [("human-readable", .powers 1024), ("si", .powers 1000)]

/-- The letters of units. -/
def units : String := "eEgGkKmMpPtTyYzZ0"

/-- The letters behind a number of blocks, if a unit was spelled without any number. -/
def lettersOf (t : Octets) : Octets :=
  match t with
  | [] => []
  | c :: rest =>
      let letter := c.toUpper
      if rest = ['B'] then (if letter = 'K' then ['k', 'B'] else [letter, 'B'])
      else if rest = text "iB" then letter :: text "iB"
      else [letter]

/-- Read the style that an option asks for. -/
def ofOption (status : Nat) (c : Call) (option : String) (t : Octets) : Action SizeStyle := do
  let t := Text.dropStart? ['\''] t |>.getD t
  match fromTable words t with
  | (_, style) :: _ => return style
  | [] =>
      let n ← optionCount status c option units t
      if n = 0 then
        c.die status (text "invalid " ++ text option ++ text " argument '" ++ t ++ ['\''])
      else return .blocks n (if t.any Char.isDigit then [] else lettersOf t)

/-- The style that variables ask for. -/
def ofVariables? (c : Call) (names : List String) : Option SizeStyle := do
  let t ← names.findSome? c.valueOf?
  match fromTable words t with
  | (_, style) :: _ => return style
  | [] =>
      match count units t with
      | .ok n =>
          if n = 0 then none
          else return .blocks n (if t.any Char.isDigit then [] else lettersOf t)
      | .error _ => none

end SizeStyle

/-! ## Sizes of entries -/

/-- The size of a block of the file system, in bytes. -/
def fileBlock : Nat := 4096

/-- How many bytes an entry holds. -/
def sizeOf : Entry → Nat
  | .file d => d.bytes.length
  | .link _ t => t.length
  | .dir .. => fileBlock
  | .device .. => 0

/-- A link up to this size takes up no room of its own. -/
def shortLink : Nat := 60

/-- How much room an entry takes up, in bytes. -/
def roomOf : Entry → Nat
  | .file d => (d.bytes.length + fileBlock - 1) / fileBlock * fileBlock
  | .link _ t => if t.length < shortLink then 0 else fileBlock
  | .dir .. => fileBlock
  | .device .. => 0

/-- What kind of thing an entry is, in words. -/
def kindOf : Entry → Octets
  | .file d => text (if d.bytes = [] then "regular empty file" else "regular file")
  | .link .. => text "symbolic link"
  | .dir .. => text "directory"
  | .device _ .fifo => text "fifo"
  | .device _ (.descriptor _ _ true _) => text "fifo"
  | .device .. => text "character special file"

/-- The letter for the kind of an entry, in front of its permissions. -/
def kindLetter : Entry → Char
  | .file _ => '-'
  | .link .. => 'l'
  | .dir .. => 'd'
  | .device _ .fifo | .device _ (.descriptor _ _ true _) => 'p'
  | .device .. => 'c'

/-- The numbers of a device. -/
def deviceNumbers : Device → Nat × Nat
  | .null => (1, 3)
  | .zero => (1, 5)
  | .full => (1, 7)
  | .random => (1, 9)
  | .terminal => (5, 0)
  | .fifo | .descriptor .. => (0, 0)

/-- The entry is a device with numbers. -/
def isNumbered (e : Entry) : Bool := kindLetter e == 'c'

/-- The numbers of the device that an entry stands for. -/
def numbersOf : Entry → Nat × Nat
  | .device _ k => deviceNumbers k
  | _ => (0, 0)

end SkipAudit.Utility
