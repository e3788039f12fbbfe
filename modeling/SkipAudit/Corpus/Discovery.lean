/-
Finding the test files.

A path to a file stands for that file, whatever its name.  A path to a directory stands for
the regular files with the right extension at any depth below it, in the order of their
paths.  Symbolic links below the directory are not followed and do not count as files.  In which
order a walk comes to the entries below a directory is its own affair.
-/
import SkipAudit.Corpus.Error
import SkipAudit.FileSystem.Basic

namespace SkipAudit

/-- The extension of test files. -/
def defaultExtension : Text := text "zig"

/-- The last of the names that lead to an entry has this extension. -/
def hasExtension (ext : Text) (names : List Name) : Bool :=
  match names.getLast? with
  | some n => Path.extension? n == some (Octets.ofText ext)
  | none => false

/-- The path that leads from `p` down along some names. -/
def Path.down (p : Path) (names : List Name) : Path :=
  names.foldl (fun q n => q.join ⟨n⟩) p

/-- The path to an entry below a directory, if that is a regular file with the extension. -/
def testPath? (ext : Text) (p : Path) : List Name × Entry → Option Path
  | (names, .file _) => if hasExtension ext names then some (p.down names) else none
  | _ => none

/-- The test files among the entries below a directory. -/
def testPaths (ext : Text) (p : Path) (found : List (List Name × Entry)) : List Path :=
  found.filterMap (testPath? ext p)

/-- The test files that a path stands for, where `walk` comes to the entries below a directory in
an order of its own. -/
def discoverBy (walk : Listing → List (List Name × Entry)) (fs : FileSystem) (p : Path)
    (ext : Text) : Except CorpusError (List Path) :=
  match fs.entry p with
  | .ok (.file _) => .ok [p]
  | .ok (.dir _ l) => .ok ((testPaths ext p (walk l)).mergeSort Path.le)
  | _ => .error (.notFound p)

/-- The test files that a path stands for. -/
def discover (fs : FileSystem) (p : Path) (ext : Text) : Except CorpusError (List Path) :=
  discoverBy (Listing.walk []) fs p ext

end SkipAudit
