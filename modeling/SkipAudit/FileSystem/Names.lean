/-
What can be done with the names of entries: giving a file a second one, moving an entry from
one name to another, and taking names away.
-/
import SkipAudit.FileSystem.Basic

namespace SkipAudit.FileSystem

/-- Take a name from what is no directory. -/
def unlink (fs : FileSystem) (p : Path) : Except FileError FileSystem := do
  match ← fs.locateLast p with
  | (.taken _ (.dir ..), _) => .error .isDirectory
  | (.taken place e, asDirectory) =>
      if asDirectory then .error .notDirectory else return fs.takeAway place e
  | (.free .., _) => .error .notFound

/-- The last piece of a path, if it is no name. -/
def endsInDots (p : Path) : Option Octets :=
  let piece := ((p.written.reverse.dropWhile (· == '/')).takeWhile (· != '/')).reverse
  if piece = ['.'] || piece = ['.', '.'] then some piece else none

/-- Remove a directory that holds nothing. -/
def removeDirectory (fs : FileSystem) (p : Path) : Except FileError FileSystem := do
  match (← fs.locateLast p).1 with
  | .taken place (.dir a .nil) =>
      if endsInDots p = some ['.'] then .error .invalidArgument
      else return fs.takeAway place (.dir a .nil)
  | .taken _ (.dir ..) =>
      if endsInDots p = some ['.'] then .error .invalidArgument else .error .notEmpty
  | .taken .. => .error .notDirectory
  | .free .. => .error .notFound

/-- Give a file one more name; a symbolic link gets it itself, or what it leads to. -/
def addName (fs : FileSystem) (followLast : Bool) (p q : Path) :
    Except FileError FileSystem := do
  match ← fs.locate followLast p with
  | .taken _ (.dir ..) => .error .notPermitted
  | .taken _ e =>
      match ← fs.locateLast q with
      | (.taken .., _) => .error .alreadyExists
      | (.free dir n _, asDirectory) =>
          if asDirectory then .error .notFound
          else
            let fs := fs.put (dir ++ [n]) (some e)
            return fs.updateAttributes e.attributes.identity ({ · with changed := fs.now })
  | .free .. => .error .notFound

/-- Two names of one and the same file. -/
def sameFile (a b : Entry) : Bool := a.attributes.identity == b.attributes.identity

/-- An entry may take the place of another: a directory only that of an empty directory, and
nothing else that of a directory. -/
def mayReplace : Entry → Entry → Except FileError Unit
  | .dir .., .dir _ .nil => .ok ()
  | .dir .., .dir .. => .error .notEmpty
  | .dir .., _ => .error .notDirectory
  | _, .dir .. => .error .isDirectory
  | _, _ => .ok ()

/-- Move an entry from one place to another. -/
def move (fs : FileSystem) (old new : List Name) (e : Entry) : FileSystem :=
  (fs.put old none).put new (some (e.mapAttributes ({ · with changed := fs.now })))

/-- Move an entry to another name, in the place of what has that name. -/
def rename (fs : FileSystem) (p q : Path) : Except FileError FileSystem := do
  if (endsInDots p).isSome || (endsInDots q).isSome then .error .busy
  let (place, asDirectory) ← fs.locateLast p
  match place with
  | .free .. => .error .notFound
  | .taken old e =>
      let (target, intoDirectory) ← fs.locateLast q
      let isDir : Bool := match e with
        | .dir .. => true
        | _ => false
      if !isDir && (asDirectory || intoDirectory) then .error .notDirectory
      else match target with
        | .taken new e' =>
            if old = new || sameFile e e' then return fs
            else do
              if old.isPrefixOf new then .error .invalidArgument
              mayReplace e e'
              return (fs.takeAway new e').move old new e
        | .free dir n _ =>
            if isDir && old.isPrefixOf dir then .error .invalidArgument
            else return fs.move old (dir ++ [n]) e

end SkipAudit.FileSystem
