/-
What a program finds when it is started: a file system, the directories in which programs
are looked for, and a directory for scratch files.

A machine program is a file that begins with the mark of the executable format; its name stands
behind the mark, and says which of the known programs it is.
-/
import SkipAudit.FileSystem.Basic
import SkipAudit.Number.Natural

namespace SkipAudit

/-- The surroundings of a program. -/
structure World where
  fs : FileSystem
  /-- The value of the variable that lists the directories with programs, if it is set. -/
  searchPath : Option Octets
  scratchDir : Path

/-- The bytes that a machine program begins with. -/
def machineMark : List UInt8 := [0x7F, 0x45, 0x4C, 0x46, 0xFF]

/-- The machine program with a name, as a file that has no number yet. -/
def machineProgram (name : Name) : FileData :=
  { FileSystem.topAttributes with bytes := machineMark ++ Octets.toBytes name }

/-- Which program a machine program is. -/
def programName? (bytes : List UInt8) : Option Name :=
  if machineMark.isPrefixOf bytes then some (Octets.ofBytes (bytes.drop machineMark.length))
  else none

namespace World

/-- The number of entries in the scratch directory. -/
def leftover (w : World) : Nat :=
  match w.fs.listing? w.scratchDir with
  | some l => l.count
  | none => 0

/-- The file that a program name leads to in one place: it must be a file, and executable, and
nobody may be writing to it. -/
def programAt (w : World) (isWritten : Nat → Bool) (p : Path) : Except FileError FileData := do
  match ← w.fs.entry p with
  | .file d =>
      if d.isExecutable = false then .error .permission
      else if isWritten d.identity then .error .textBusy
      else return d
  | _ => .error .permission

/-- Look for a program in some directories, in order.  Missing ones are passed over, and so
are those that may not be executed, which is remembered for the case that nothing is found. -/
def searchIn (w : World) (isWritten : Nat → Bool) (name : Name) :
    Bool → List Path → Except FileError (Path × FileData)
  | refused, [] => .error (if refused then .permission else .notFound)
  | refused, dir :: dirs =>
      let p := dir.join ⟨name⟩
      match w.programAt isWritten p with
      | .ok d => .ok (p, d)
      | .error .notFound | .error .notDirectory => searchIn w isWritten name refused dirs
      | .error .permission => searchIn w isWritten name true dirs
      | .error e => .error e

/-- The program that a name stands for: a name with a slash is a path, any other is looked for
in the directories of the search path and nowhere else. -/
def findProgram (w : World) (isWritten : Nat → Bool) (name : Octets) :
    Except FileError (Path × FileData) :=
  if name = [] then .error .notFound
  else if name.contains '/' then (w.programAt isWritten ⟨name⟩).map (⟨name⟩, ·)
  else match w.searchPath with
    | some dirs => w.searchIn isWritten name false (Path.ofSearchPath dirs)
    | none => .error .notFound

/-! ## Programs as they are executed -/

/-- A machine program with the arguments it is executed with; the first of them is the name
under which it was called. -/
structure Image where
  program : Name
  arguments : List Octets
  /-- The number of its file. -/
  identity : Nat
  /-- The path under which it was executed. -/
  path : Octets
deriving DecidableEq, Repr

/-- A blank of the line that names an interpreter. -/
def isLineBlank (c : Char) : Bool := c == ' ' || c == '\t'

/-- How many bytes at the start of a file are looked at, the last only for where a name ends. -/
def headSize : Nat := 256

/-- The line that names the interpreter of a script, without the mark in front of it: up to a
newline, or what fits, unless the name of the interpreter itself may be cut off. -/
def headLine? (head : Octets) : Option Octets :=
  match head.span (· != '\n') with
  | (line, _ :: _) => some line
  | (line, []) =>
      let name := line.dropWhile isLineBlank
      if line.length < headSize - 2 then some line
      else if name.any fun c => isLineBlank c || c == Octets.nul then some line.dropLast
      else none

/-- The interpreter that a script asks for in its first line, and one argument for it. -/
def interpreter? (bytes : List UInt8) : Option (Octets × Option Octets) := do
  let head ← Text.dropStart? (text "#!") (Octets.ofBytes (bytes.take headSize))
  let line := ((← headLine? head).reverse.dropWhile isLineBlank).reverse
  let (name, rest) := (line.dropWhile isLineBlank).span fun c => !isLineBlank c && c != Octets.nul
  let arg := if rest.head? = some Octets.nul then []
    else (rest.dropWhile isLineBlank).takeWhile (· != Octets.nul)
  if name = [] then none else some (name, if arg = [] then none else some arg)

/-- How many programs may stand one behind the other, each the interpreter of the one before. -/
def maxPrograms : Nat := 6

/-- What executing a file with some arguments comes to, `p` being its path: a script is executed
by its interpreter, which gets the path of the script in the place of the script's own name. -/
def imageWithin (w : World) (isWritten : Nat → Bool) :
    Nat → Octets → FileData → List Octets → Except FileError Image
  | 0, _, _, _ => .error .tooManyLinks
  | n + 1, p, d, args =>
      match programName? d.bytes with
      | some program => .ok ⟨program, args, d.identity, p⟩
      | none =>
          match interpreter? d.bytes with
          | some (q, arg?) => do
              let d' ← w.programAt isWritten (Path.mk q)
              imageWithin w isWritten n q d' (q :: (arg?.toList ++ p :: args.drop 1))
          | none => .error .notExecutable

/-- How long one argument or variable may be, in bytes, and how long all of them together. -/
def maxArgument : Nat := Natural.twoTo 17
def maxArguments : Nat := Natural.twoTo 21

/-- The arguments and the variables are too long for a program. -/
def areTooLong (strings : List Octets) : Bool :=
  strings.any (maxArgument ≤ ·.length) ||
    maxArguments < Natural.total (strings.map fun t => t.length + 9)

/-- What executing a file with some arguments and variables comes to. -/
def image (w : World) (isWritten : Nat → Bool) (p : Octets) (d : FileData)
    (args environment : List Octets) : Except FileError Image :=
  if areTooLong (args ++ environment) then .error .listTooLong
  else w.imageWithin isWritten maxPrograms p d args

end World

end SkipAudit
