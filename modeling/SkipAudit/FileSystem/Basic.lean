/-
File systems, and what programs do to them.

A file system is a directory tree with a current directory.  `locate` follows a path
through the tree as the system does: name by name, `..` to the directory above, symbolic
links by way of their targets and at most `maxLinks` of them.  Every operation is a
function to the new file system or to the reason for a refusal.
-/
import SkipAudit.FileSystem.Error
import SkipAudit.FileSystem.Listing

namespace SkipAudit

/-- A directory tree, and the names that lead to the current directory. -/
structure FileSystem where
  root : Listing
  cwd : List Name
  /-- The number of the next new entry. -/
  next : Nat
  /-- The time of what happens now, in nanoseconds since the beginning of 1970. -/
  now : Int
  /-- The permissions that a new entry does not get. -/
  mask : Nat
  /-- What the directory of processes holds. -/
  processes : Unit → Listing

namespace FileSystem

/-- How many symbolic links may be followed on one path. -/
def maxLinks : Nat := 40

/-- The longest name of an entry, in bytes. -/
def maxName : Nat := 255

/-- A path is shorter than this, in bytes. -/
def maxPath : Nat := 4096

/-- The name of the directory of processes, at the top of the tree. -/
def processesName : Name := text "proc"

/-- The attributes of the topmost directory. -/
def topAttributes : Attributes := ⟨0, 0o755, 0, 0, 0, 0, 0⟩

/-- The attributes of the directory of processes. -/
def processesAttributes : Attributes := { topAttributes with mode := 0o555 }

/-- The permissions of a new file and of a new directory, before some are taken away. -/
def fileMode : Nat := 0o666
def directoryMode : Nat := 0o777

/-- Where a path leads. -/
inductive Place where
  /-- To an entry, at the end of a chain of directories. -/
  | taken (place : List Name) (entry : Entry)
  /-- To a free name in an existing directory.  `asDirectory`: the path ends in a slash. -/
  | free (dir : List Name) (name : Name) (asDirectory : Bool)
deriving Repr

/-- The entry that a chain of names leads to from the top. -/
def find? (fs : FileSystem) : List Name → Option Entry
  | [] => some (.dir topAttributes fs.root)
  | n :: ns =>
      if n = processesName then (fs.processes ()).find? processesAttributes ns
      else fs.root.find? topAttributes (n :: ns)

/-- Follow the pieces of a path from the directory `dir`.  `followLast`: a symbolic link at
the end of the path is followed too. -/
def follow (fs : FileSystem) (followLast : Bool) :
    Nat → List Name → List Octets → Except FileError Place
  | _, dir, [] =>
      match fs.find? dir with
      | some e => .ok (.taken dir e)
      | none => .error .notFound
  | links, dir, n :: rest =>
      if n = [] ∨ n = ['.'] then follow fs followLast links dir rest
      else if n = ['.', '.'] then follow fs followLast links dir.dropLast rest
      else if maxName < n.length then .error .nameTooLong
      else
        let place := dir ++ [n]
        match fs.find? place with
        | none => if rest.all (· == []) then .ok (.free dir n (rest ≠ [])) else .error .notFound
        | some (.dir ..) => follow fs followLast links place rest
        | some (.link a target) =>
            if rest = [] ∧ followLast = false then .ok (.taken place (.link a target))
            else match links with
              | 0 => .error .tooManyLinks
              | links + 1 =>
                  let pieces := Text.cutAt '/' target
                  follow fs followLast links
                    (if Text.startsWith ['/'] target then [] else dir) (pieces ++ rest)
        | some (.device a k) =>
            if rest ≠ [] then .error .notDirectory
            else match k, followLast with
              | .descriptor _ _ _ shown, false => .ok (.taken place (.link a shown))
              | _, _ => .ok (.taken place (.device a k))
        | some (.file d) =>
            if rest = [] then .ok (.taken place (.file d)) else .error .notDirectory
termination_by links _ pieces => (links, pieces.length)

/-- Where a path leads, or why it leads nowhere. -/
def locate (fs : FileSystem) (followLast : Bool) (p : Path) : Except FileError Place :=
  if p.written.contains '\x00' then .error .nulInPath
  else if p.written = [] then .error .notFound
  else if maxPath ≤ p.written.length then .error .nameTooLong
  else fs.follow followLast maxLinks (if p.isAbsolute then [] else fs.cwd)
    (Text.cutAt '/' p.written)

/-- Where the last name of a path stands: a symbolic link there is not followed, even if there are
slashes behind it.  The second part tells whether there are. -/
def locateLast (fs : FileSystem) (p : Path) : Except FileError (Place × Bool) := do
  let bare := (p.written.reverse.dropWhile (· == '/')).reverse
  if bare = [] then return (← fs.locate false p, false)
  else return (← fs.locate false ⟨bare⟩, bare.length < p.written.length)

/-- The path that a chain of names spells from the top. -/
def pathTo (names : List Name) : Path :=
  ⟨if names = [] then ['/'] else names.flatMap ('/' :: ·)⟩

/-- The full path of the current directory. -/
def currentPath (fs : FileSystem) : Path := pathTo fs.cwd

/-! ## Looking -/

/-- The entry that a path leads to, through symbolic links. -/
def entry (fs : FileSystem) (p : Path) : Except FileError Entry := do
  match ← fs.locate true p with
  | .taken _ e => return e
  | .free .. => .error .notFound

/-- The entry that a path leads to, where a symbolic link at its end stands for itself. -/
def entryItself (fs : FileSystem) (p : Path) : Except FileError Entry := do
  match ← fs.locate false p with
  | .taken _ e => return e
  | .free .. => .error .notFound

/-- The path leads to something. -/
def pathExists (fs : FileSystem) (p : Path) : Bool :=
  match fs.entry p with
  | .ok _ => true
  | .error _ => false

/-- The path leads to a regular file. -/
def isFile (fs : FileSystem) (p : Path) : Bool :=
  match fs.entry p with
  | .ok (.file _) => true
  | _ => false

/-- The listing of a directory, if the path leads to one. -/
def listing? (fs : FileSystem) (p : Path) : Option Listing :=
  match fs.entry p with
  | .ok (.dir _ l) => some l
  | _ => none

/-- The bytes of a file.  A device has none to offer. -/
def readBytes (fs : FileSystem) (p : Path) : Except FileError (List UInt8) := do
  match ← fs.entry p with
  | .file d => return d.bytes
  | .dir .. => .error .isDirectory
  | .device _ .terminal => .error .noDevice
  | .device .. => return []
  | .link .. => .error .notFound

/-- The text of a file in UTF-8. -/
def readText (fs : FileSystem) (p : Path) : Except FileError Text := do
  match Utf8.decode? (← fs.readBytes p) with
  | some t => return t
  | none => .error .notUtf8

/-! ## Changing -/

/-- The file system with the entry at a place changed. -/
def alterAt (fs : FileSystem) (place : List Name) (f : Option Entry → Option Entry) :
    FileSystem :=
  { fs with root := fs.root.alterAt f place }

/-- The file system with another entry at a place, or none; the directory keeps the time. -/
def put (fs : FileSystem) (place : List Name) (e? : Option Entry) : FileSystem :=
  (fs.alterAt place fun _ => e?).alterAt place.dropLast (·.map (·.stamped fs.now))

/-- Change what is kept of the entry with a number, under each of its names. -/
def updateAttributes (fs : FileSystem) (identity : Nat) (f : Attributes → Attributes) :
    FileSystem :=
  { fs with root := fs.root.updateAttributes identity f }

/-- The attributes of a new entry. -/
def fresh (fs : FileSystem) (mode : Nat) : Attributes :=
  ⟨fs.next, mode &&& (0o7777 ^^^ fs.mask), 0, 0, fs.now, fs.now, fs.now⟩

/-- The bit of a directory that hands its group down to what is made in it. -/
def groupBit : Nat := 0o2000

/-- A new entry at a place, with a new number. -/
def add (fs : FileSystem) (place : List Name) (mode : Nat) (make : Attributes → Entry) :
    FileSystem :=
  let a := fs.fresh mode
  let a := match fs.find? place.dropLast with
    | some (.dir above _) =>
        if above.mode &&& groupBit = 0 then a
        else match make a with
          | .dir .. => { a with group := above.group, mode := a.mode ||| groupBit }
          | _ => { a with group := above.group }
    | _ => a
  { fs.put place (some (make a)) with next := fs.next + 1 }

/-- A file that was not there before, at a place. -/
def addFile (fs : FileSystem) (place : List Name) (bytes : List UInt8) (mode : Nat) :
    FileSystem :=
  fs.add place mode fun a => .file { a with bytes }

/-- Replace the bytes of the file with a number, whatever its names. -/
def rewriteFile (fs : FileSystem) (identity : Nat) (bytes : List UInt8) : FileSystem :=
  { fs with
    root := fs.root.updateFile identity fun d =>
      { d with bytes, modified := fs.now, changed := fs.now } }

/-- The part of a path in front of its last piece. -/
def above (p : Path) : Path :=
  let stem := (p.written.reverse.dropWhile (· == '/')).dropWhile (· != '/')
  if stem = [] then ⟨['.']⟩ else ⟨stem.reverse⟩

/-- Where a file is written that may be new.  A path that ends in a slash never stands for a
file, whether there is one or not. -/
def locateForWriting (fs : FileSystem) (p : Path) : Except FileError Place :=
  if p.written.getLast? = some '/' && (fs.listing? (above p)).isSome then .error .isDirectory
  else do
    match ← fs.locate true p with
    | .free _ _ true => .error .isDirectory
    | .free (top :: _) _ _ => if top = processesName then .error .notFound else fs.locate true p
    | place => return place

/-- Write a file: `f` makes its bytes from the old ones, none for a new file.  A file
that is there keeps its permissions; a new one has `mode`. -/
def writeWith (fs : FileSystem) (p : Path) (mode : Nat)
    (f : Option (List UInt8) → List UInt8) : Except FileError FileSystem := do
  match ← fs.locateForWriting p with
  | .taken _ (.file d) => return fs.rewriteFile d.identity (f (some d.bytes))
  | .taken _ (.device _ .terminal) => .error .noDevice
  | .taken _ (.device _ .full) => if f (some []) = [] then return fs else .error .noSpace
  | .taken _ (.device ..) => return fs
  | .taken .. => .error .isDirectory
  | .free dir n _ => return fs.addFile (dir ++ [n]) (f none) mode

/-- Replace the contents of a file, creating it if need be. -/
def writeBytes (fs : FileSystem) (p : Path) (bytes : List UInt8) : Except FileError FileSystem :=
  fs.writeWith p fileMode fun _ => bytes

/-- Replace the contents of a file by a text. -/
def writeText (fs : FileSystem) (p : Path) (t : Text) : Except FileError FileSystem :=
  fs.writeBytes p (Utf8.encode t)

/-- Change what is kept of the entry that a path leads to, which counts as a change now. -/
def modifyEntry (fs : FileSystem) (followLast : Bool) (p : Path)
    (f : Attributes → Attributes) : Except FileError FileSystem := do
  match ← fs.locate followLast p with
  | .taken (top :: _) e =>
      if top = processesName then .error .notPermitted
      else return fs.updateAttributes e.attributes.identity fun a =>
        { f a with changed := fs.now }
  | .taken [] _ => return fs
  | .free .. => .error .notFound

/-- Give what a path leads to other permissions. -/
def setMode (fs : FileSystem) (p : Path) (mode : Nat) : Except FileError FileSystem :=
  fs.modifyEntry true p ({ · with mode })

/-- Put a new entry at a free place. -/
def create (fs : FileSystem) (p : Path) (mode : Nat) (make : Attributes → Entry) :
    Except FileError FileSystem := do
  match ← fs.locateLast p with
  | (.taken .., _) => .error .alreadyExists
  | (.free dir n _, asDirectory) =>
      let isDir := match make (fs.fresh mode) with
        | .dir .. => true
        | _ => false
      if dir.head? = some processesName || asDirectory && !isDir then .error .notFound
      else return fs.add (dir ++ [n]) mode make

/-- Make a directory. -/
def makeDirectory (fs : FileSystem) (p : Path) (mode : Nat) : Except FileError FileSystem :=
  fs.create p mode (.dir · .nil)

/-- Make a symbolic link. -/
def makeLink (fs : FileSystem) (p : Path) (target : Octets) : Except FileError FileSystem :=
  if target = [] then .error .notFound
  else if maxPath ≤ target.length then .error .nameTooLong
  else do
    let after ← { fs with mask := 0 }.create p directoryMode (.link · target)
    return { after with mask := fs.mask }

/-- Make a special file. -/
def makeDevice (fs : FileSystem) (p : Path) (mode : Nat) (k : Device) :
    Except FileError FileSystem :=
  fs.create p mode (.device · k)

/-- Take the entry at a place away; what has other names was changed by that. -/
def takeAway (fs : FileSystem) (place : List Name) (e : Entry) : FileSystem :=
  (fs.put place none).updateAttributes e.attributes.identity ({ · with changed := fs.now })

/-- Remove an entry with all that it holds; a symbolic link goes, not its target. -/
def remove (fs : FileSystem) (p : Path) : Except FileError FileSystem := do
  match ← fs.locate false p with
  | .taken place e => return fs.takeAway place e
  | .free .. => .error .notFound

/-- The directories above the end of a path, outermost first, and the path itself. -/
def leadingPaths (p : Path) : List Path :=
  let pieces := Text.cutAt '/' p.written
  (List.range pieces.length).map fun i =>
    ⟨(List.intersperse ['/'] (pieces.take (i + 1))).flatten⟩

/-- Make a directory and those above it, where they are not there yet. -/
def makeDirectories (fs : FileSystem) (p : Path) : Except FileError FileSystem :=
  (leadingPaths p).foldlM (fun fs q =>
    if q.written = [] then .ok fs
    else match fs.listing? q with
      | some _ => .ok fs
      | none => fs.makeDirectory q directoryMode) fs

/-- Make the directories above the end of a path. -/
def makeParents (fs : FileSystem) (p : Path) : Except FileError FileSystem :=
  match (leadingPaths p).dropLast.getLast? with
  | some parent => fs.makeDirectories parent
  | none => .ok fs

/-! ## Comparing -/

/-- Everything below a directory, each entry with its path from there. -/
def tree (fs : FileSystem) (dir : List Name) : List (Path × Entry) :=
  match fs.find? dir with
  | some (.dir _ l) =>
      (l.walk []).map fun (names, e) => (⟨(List.intersperse ['/'] names).flatten⟩, e)
  | _ => []

/-- Two entries look alike from outside: a directory is not compared by what it holds,
nor anything by its attributes. -/
def looksAlike : Entry → Entry → Bool
  | .file a, .file b => a.bytes == b.bytes
  | .link _ s, .link _ t => s == t
  | .dir .., .dir .. => true
  | .device _ a, .device _ b => a == b
  | _, _ => false

/-- What differs below a directory between two states: new and altered entries, and
vanished ones with nothing. -/
def changes (before after : FileSystem) (dir : List Name) : List (Path × Option Entry) :=
  let old := before.tree dir
  let new := after.tree dir
  let altered := new.filter fun (p, e) =>
    !old.any fun (q, e') => p.written == q.written && looksAlike e' e
  let vanished := old.filter fun (p, _) => !new.any fun (q, _) => p.written == q.written
  altered.map (fun (p, e) => (p, some e)) ++ vanished.map fun (p, _) => (p, none)

end FileSystem

end SkipAudit
