/-
The program: the command line, on the files of the machine.

What the arguments name, the tree below the test path and the compiler, is read into a world.
The command line runs in that world, and what it changed there is written back.  Compilers
are scripts, which are carried out in the world too; nothing is started on the machine.
-/
import SkipAudit.CommandLine.Run
import SkipAudit.Process.Installation

namespace SkipAudit.Machine

/-- How many tests run at once if the arguments do not say. -/
def defaultWorkers : Nat := 4

/-- A name or a path of the machine, as bytes. -/
def octets (s : String) : Octets := Octets.ofText (text s)

/-- The file with some bytes.  Scripts are executable. -/
def fileOf (bytes : List UInt8) : Entry :=
  .file { oldAttributes (if (World.interpreter? bytes).isSome then 0o755 else 0o644) with bytes }

/-- The directory with some entries. -/
def directoryOf (l : Listing) : Entry := .dir (oldAttributes 0o755) l

/-- Read a file. -/
def readFile (path : String) : IO Entry := do return fileOf (← IO.FS.readBinFile path).toList

/-- Read a directory with all that is below it; symbolic links are not followed. -/
partial def readDirectory (path : String) : IO Listing := do
  let found ← (← IO.FS.realPath path).readDir
  let entries ← found.toList.filterMapM fun e => do
    let place := path ++ "/" ++ e.fileName
    match (← e.path.symlinkMetadata).type with
    | .dir => return some (octets e.fileName, directoryOf (← readDirectory place))
    | .file => return some (octets e.fileName, ← readFile place)
    | .symlink =>
        let target := octets (← IO.FS.realPath place).toString
        return some (octets e.fileName, .link (oldAttributes 0o777) target)
    | .other => return none
  return .ofEntries entries

/-- Read what a path leads to, if it leads to a file or a directory. -/
def readPlace? (path : String) : IO (Option Entry) := do
  try
    match (← (← IO.FS.realPath path).metadata).type with
    | .dir => return some (directoryOf (← readDirectory path))
    | .file => return some (← readFile path)
    | _ => return none
  catch _ => return none

/-- Put an entry into a file system, with the directories above it. -/
def place (fs : FileSystem) (p : Path) (e : Entry) : FileSystem :=
  let fs := (fs.makeParents p).toOption.getD fs
  match fs.locate false p with
  | .ok (.taken names _) => fs.alterAt names fun _ => some e
  | .ok (.free dir name _) => fs.alterAt (dir ++ [name]) fun _ => some e
  | .error _ => fs

/-- The world before the command line runs, with what some paths lead to. -/
def readWorld (paths : List Path) : IO World := do
  let here : Path := ⟨octets (← IO.currentDir).toString⟩
  let start := World.fresh.fs
  let fs := (start.makeDirectories here).toOption.getD start
  let fs := { fs with cwd := (Text.cutAt '/' here.written).filter (· ≠ []) }
  let fs ← paths.foldlM (fun fs p => do
    match ← readPlace? (String.ofList p.shown) with
    | some e => return place fs p e
    | none => return fs) fs
  let (root, next) := fs.root.numbered 1
  return { World.fresh with
    fs := { fs with root, next }, searchPath := (← IO.getEnv "PATH").map octets }

/-- Write one change back; tell whether that succeeded. -/
def writeChange (p : Path) (e? : Option Entry) : IO Bool := do
  let path := "/" ++ String.ofList p.shown
  try
    match e? with
    | some (.file d) => IO.FS.writeBinFile path ⟨d.bytes.toArray⟩
    | some (.dir ..) => IO.FS.createDirAll path
    | some (.link ..) | some (.device ..) => return false
    | none =>
        if (← (← IO.FS.realPath path).metadata).type == .dir then IO.FS.removeDirAll path
        else IO.FS.removeFile path
    return true
  catch _ => return false

end SkipAudit.Machine

open SkipAudit in
/-- Run the command line. -/
def main (arguments : List String) : IO UInt32 := do
  let args := arguments.map text
  let before ← Machine.readWorld <|
    match CommandLine.read args with
    | .ok r => [r.path, r.compiler]
    | .error _ => []
  let done := CommandLine.run Machine.defaultWorkers args (.idle before)
  let after := done.system.world
  let written ← (before.fs.changes after.fs []).mapM fun (p, e?) => Machine.writeChange p e?
  IO.print (String.ofList done.output)
  IO.eprint (String.ofList done.complaint)
  let status := if written.all id then done.status else max done.status CommandLine.failureStatus
  return status.toUInt32
