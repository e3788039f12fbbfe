/-
What the command line tells about itself.
-/
import SkipAudit.CommandLine.Arguments

namespace SkipAudit.CommandLine

/-- The name of the program. -/
def programName : Text := text "unskip"

/-- The version of the program. -/
def version : Text := text "0.1.0-alpha.1"

/-- An option as the help shows it: how it is written, and what it does. -/
structure OptionHelp where
  written : String
  meaning : String

/-- The options, in the order in which they are shown. -/
def optionHelps : List OptionHelp :=
  [⟨"    --todo", "Report outstanding tests without running anything"⟩,
   ⟨"    --recheck", "Also re-test tests that currently pass"⟩,
   ⟨"-j, --jobs <N>", "Number of tests to run in parallel"⟩,
   ⟨"    --timeout <SECS>", "Seconds before a test counts as timed out [default: 60]"⟩,
   ⟨"    --target <TRIPLE>", "Target to compile for [default: riscv64-linux]"⟩,
   ⟨"    --include-dir <DIR>", "Include directory for the compiler [default: ../test]"⟩,
   ⟨"    --lib-dir <DIR>", "Library directory for the compiler [default: ../../lib]"⟩,
   ⟨"    --extension <EXT>", "Extension of test files below a directory [default: zig]"⟩,
   ⟨"-h, --help", "Print help"⟩,
   ⟨"-V, --version", "Print version"⟩]

/-- The column that meanings begin in. -/
def meaningColumn : Nat := 26

/-- The line of an option. -/
def OptionHelp.line (o : OptionHelp) : Text :=
  let written := text o.written
  text "  " ++ written ++ List.replicate (meaningColumn - 2 - written.length) ' ' ++
    text o.meaning ++ text "\n"

/-- How the program is called. -/
def usage : Text := text "Usage: " ++ programName ++ text " [OPTIONS] <COMPILER> <PATH>\n"

/-- The help text. -/
def help : Text :=
  text "Remove backend skip lines from behavior tests that now pass\n\n" ++ usage ++
    text "\nArguments:\n  <COMPILER>  Compiler to run the tests with\n" ++
    text "  <PATH>      Test file, or directory with test files\n\nOptions:\n" ++
    optionHelps.flatMap OptionHelp.line

/-- The line for the version. -/
def versionLine : Text := programName ++ text " " ++ version ++ text "\n"

end SkipAudit.CommandLine
