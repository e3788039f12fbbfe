/-
What goes wrong with the files of a corpus.
-/
import SkipAudit.Block.TestUnit
import SkipAudit.FileSystem.Error
import SkipAudit.Path

namespace SkipAudit

/-- A file that is not there, cannot be read or written, or is malformed. -/
inductive CorpusError where
  | notFound (path : Path)
  | read (path : Path) (cause : FileError)
  | write (path : Path) (cause : FileError)
  | structural (path : Path) (cause : StructureError)
deriving DecidableEq, Repr

namespace CorpusError

/-- The wording of an error. -/
def message : CorpusError → Text
  | .notFound p => text "no such file or directory: " ++ p.shown
  | .read p e => text "failed to read " ++ p.shown ++ text ": " ++ e.message
  | .write p e => text "failed to write " ++ p.shown ++ text ": " ++ e.message
  | .structural p e => text "malformed test file " ++ p.shown ++ text ": " ++ e.message

/-- The file system refused, as opposed to the contents of a file being unusable. -/
def isRefusal : CorpusError → Bool
  | .read .. | .write .. => true
  | .notFound .. | .structural .. => false

end CorpusError

end SkipAudit
