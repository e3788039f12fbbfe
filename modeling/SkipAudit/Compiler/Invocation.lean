/-
How the compiler is called for a test.
-/
import SkipAudit.Path

namespace SkipAudit

/-- Everything that decides how the compiler is called. -/
structure Invocation where
  compiler : Path
  target : Text
  includeDir : Path
  libDir : Path
  /-- The time a test may take, in milliseconds. -/
  timeout : Nat
  /-- How many compilers may run at once; by default as many as the machine can. -/
  workers : Option Nat
deriving DecidableEq, Repr

namespace Invocation

def defaultCompiler : Path := .ofText (text "zig")
def defaultTarget : Text := text "riscv64-linux"
def defaultIncludeDir : Path := .ofText (text "../test")
def defaultLibDir : Path := .ofText (text "../../lib")

/-- The default time for a test, in seconds. -/
def defaultSeconds : Nat := 60

/-- Milliseconds in a second. -/
def perSecond : Nat := 1000

/-- The invocation with every default. -/
def standard : Invocation :=
  { compiler := defaultCompiler, target := defaultTarget, includeDir := defaultIncludeDir,
    libDir := defaultLibDir, timeout := defaultSeconds * perSecond, workers := none }

/-- The arguments for running the tests of a file: the include directory is glued to its
option, the library directory is not. -/
def testArguments (v : Invocation) (file : Path) : List Octets :=
  [text "test", file.written, text "-target", Octets.ofText v.target, text "-fno-llvm",
   text "-fno-lld", text "-I" ++ v.includeDir.written, text "--lib-dir", v.libDir.written]

/-- The arguments for formatting a file. -/
def formatArguments (file : Path) : List Octets := [text "fmt", file.written]

end Invocation

end SkipAudit
