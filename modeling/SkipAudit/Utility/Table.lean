/-
All utilities by their names.
-/
import SkipAudit.Utility.Arranging
import SkipAudit.Utility.Asking
import SkipAudit.Utility.Batches
import SkipAudit.Utility.Blocks
import SkipAudit.Utility.Calculation
import SkipAudit.Utility.Characters
import SkipAudit.Utility.Checksums
import SkipAudit.Utility.Copying
import SkipAudit.Utility.Counting
import SkipAudit.Utility.Differing
import SkipAudit.Utility.Dumping
import SkipAudit.Utility.Editing
import SkipAudit.Utility.Environment
import SkipAudit.Utility.Factoring
import SkipAudit.Utility.Facts
import SkipAudit.Utility.Fields
import SkipAudit.Utility.Filling
import SkipAudit.Utility.Finding
import SkipAudit.Utility.Joining
import SkipAudit.Utility.Launching
import SkipAudit.Utility.Linking
import SkipAudit.Utility.Listings
import SkipAudit.Utility.Moving
import SkipAudit.Utility.Paging
import SkipAudit.Utility.Parts
import SkipAudit.Utility.Paths
import SkipAudit.Utility.Permitting
import SkipAudit.Utility.Printing
import SkipAudit.Utility.Recoding
import SkipAudit.Utility.Repeats
import SkipAudit.Utility.Reversing
import SkipAudit.Utility.Scaling
import SkipAudit.Utility.Search
import SkipAudit.Utility.Sections
import SkipAudit.Utility.Series
import SkipAudit.Utility.Sorting
import SkipAudit.Utility.Splitting
import SkipAudit.Utility.Status
import SkipAudit.Utility.Tabs
import SkipAudit.Utility.Touching
import SkipAudit.Utility.Usage
import SkipAudit.Utility.Watching
import SkipAudit.Utility.Wrapping

namespace SkipAudit.Utility

/-- A utility with another status for the loss of output. -/
def losing (status : Nat) (u : Utility) : Utility := fun c => u { c with lossStatus := status }

/-- A utility that does not tell why output was lost. -/
def mute (u : Utility) : Utility := fun c => u { c with hidesLoss := true }

/-- Utilities that carry texts through. -/
def forTexts : List (String × Utility) :=
  [("cat", cat), ("cmp", losing 2 cmp), ("comm", comm), ("csplit", csplit), ("cut", cut),
   ("dd", dd), ("egrep", losing 2 egrep), ("expand", expand), ("fgrep", losing 2 fgrep),
   ("fmt", fmt), ("fold", fold), ("grep", losing 2 grep), ("head", head), ("join", join),
   ("nl", nl), ("od", od), ("paste", paste), ("pr", pr), ("rev", rev), ("sed", losing 4 sed),
   ("shuf", shuf), ("sort", losing 2 sort), ("split", split), ("tac", tac), ("tail", tail),
   ("tee", tee), ("tr", tr), ("tsort", tsort), ("unexpand", unexpand), ("uniq", uniq),
   ("wc", mute wc), ("yes", yes)]

/-- Utilities that write bytes as text, or sum them up. -/
def forBytes : List (String × Utility) :=
  [("base32", base32), ("base64", base64), ("basenc", basenc)] ++
  [("b2sum", digestSum .blake2b), ("cksum", cksum), ("md5sum", digestSum .md5),
   ("sha1sum", digestSum .sha1), ("sha224sum", digestSum .sha224),
   ("sha256sum", digestSum .sha256), ("sha384sum", digestSum .sha384),
   ("sha512sum", digestSum .sha512), ("sum", sum)].map fun x => (x.1, mute x.2)

/-- Utilities that know or calculate something. -/
def forValues : List (String × Utility) :=
  [("true", nothing 0), ("false", nothing 1), ("echo", echo), ("printf", printf), ("test", test),
   ("[", bracket), ("basename", basename), ("dirname", dirname), ("pathchk", pathchk),
   ("pwd", pwd), ("seq", seq), ("expr", losing 3 expr), ("factor", factor), ("numfmt", numfmt),
   ("date", date), ("nproc", nproc), ("whoami", fact "root"), ("hostname", fact "localhost"),
   ("hostid", fact "007f0100"), ("arch", fact "x86_64"), ("id", userId), ("groups", userGroups),
   ("logname", logname), ("users", nobody ""), ("who", nobody "abdHlmpqrstTu"),
   ("pinky", nobody "lbhpsfwiq"), ("uname", uname), ("printenv", losing 2 printenv),
   ("tty", losing 3 tty), ("stty", stty), ("sync", sync)]

/-- Utilities for files and directories. -/
def forEntries : List (String × Utility) :=
  [("chcon", chcon), ("chgrp", chgrp), ("chmod", chmod), ("chown", chown), ("cp", cp), ("df", df),
   ("dir", losing 2 dir), ("du", mute du), ("find", find), ("install", install), ("link", link),
   ("ln", ln), ("ls", losing 2 ls), ("mkdir", mkdir), ("mkfifo", mkfifo), ("mknod", mknod),
   ("mktemp", mktemp), ("mv", mv), ("readlink", readlink), ("realpath", realpath), ("rm", rm),
   ("rmdir", rmdir), ("shred", shred), ("stat", stat), ("touch", touch), ("truncate", truncate),
   ("unlink", unlink), ("vdir", losing 2 vdir)]

/-- Utilities that run others, wait, or send signals. -/
def forProcesses : List (String × Utility) :=
  [("env", losing 125 env), ("kill", kill), ("nice", losing 125 nice),
   ("nohup", losing 125 nohup), ("runcon", runcon), ("setsid", setsid),
   ("sleep", sleep), ("stdbuf", losing 125 stdbuf), ("timeout", losing 125 timeout),
   ("which", which), ("xargs", xargs)]

/-- All utilities. -/
def table : List (Name × Utility) :=
  Text.keyed (forTexts ++ forBytes ++ forValues ++ forEntries ++ forProcesses)

/-- The utility with a name. -/
def ofName? (name : Name) : Option Utility := table.lookup name

end SkipAudit.Utility
