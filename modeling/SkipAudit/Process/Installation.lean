/-
A system as it is when nothing has been done on it.
-/
import SkipAudit.Process.Loading

namespace SkipAudit

/-- What is kept of an entry that was there from the beginning. -/
def oldAttributes (mode : Nat) : Attributes :=
  let time := System.fileTime (.idle ⟨⟨.nil, [], 0, 0, 0, fun _ => .nil⟩, none, ⟨[]⟩⟩)
  ⟨0, mode, 0, 0, time, time, time⟩

/-- A machine program in the directory of programs. -/
def installed (name : Octets) : Entry :=
  .file { oldAttributes 0o755 with bytes := (machineProgram name).bytes }

/-- A symbolic link that was there from the beginning. -/
def oldLink (name target : String) : Name × Entry :=
  (text name, .link (oldAttributes 0o777) (text target))

/-- The directory with all machine programs.  The shell has a second name. -/
def programListing : Listing :=
  .ofEntries
    (oldLink "sh" "dash" :: (shellName, installed shellName) ::
      Utility.table.map fun u => (u.1, installed u.1))

/-- The special files. -/
def deviceListing : Listing :=
  let special (name : String) (k : Device) : Name × Entry :=
    (text name, .device (oldAttributes 0o666) k)
  .ofEntries
    [special "null" .null, special "zero" .zero, special "full" .full,
     special "random" .random, special "urandom" .random, special "tty" .terminal,
     oldLink "stdin" "/proc/self/fd/0", oldLink "stdout" "/proc/self/fd/1",
     oldLink "stderr" "/proc/self/fd/2", oldLink "fd" "/proc/self/fd"]

/-- The name of the directory that a new world starts in. -/
def workName : Name := text "work"

/-- The name of the directory for scratch files. -/
def scratchName : Name := text "scratch"

/-- All entries of a new world, the files not yet numbered. -/
def freshListing : Listing :=
  let dir (name : Name) (mode : Nat) (l : Listing) : Name × Entry :=
    (name, .dir (oldAttributes mode) l)
  .ofEntries
    [oldLink "bin" "usr/bin",
     dir (text "dev") 0o755 deviceListing,
     dir (text "etc") 0o755 .nil,
     dir (text "home") 0o755 .nil,
     dir FileSystem.processesName 0o555 .nil,
     dir (text "root") 0o700 .nil,
     dir (text "tmp") 0o1777 .nil,
     dir (text "usr") 0o755 (.ofEntries [dir (text "bin") 0o755 programListing]),
     dir (text "var") 0o755 .nil,
     dir scratchName 0o700 .nil,
     dir workName 0o700 .nil]

/-- A world with the machine programs, an empty current directory and an empty scratch
directory. -/
def World.fresh : World :=
  let (root, next) := freshListing.numbered 1
  { fs :=
      { root, cwd := [workName], next, now := 0, mask := System.usualMask
        processes := fun _ => .nil }
    searchPath := some (text "/usr/bin:/bin")
    scratchDir := ⟨'/' :: scratchName⟩ }

/-- A system with a fresh world. -/
def System.fresh : System := .idle .fresh

end SkipAudit
