/-
Reading the command line.

Two positional arguments, flags, and options with one value each, in any order; after `--`
everything is positional.  An option's value is the rest of its own argument, behind a `=`
or glued to the short form, or the next argument unless that looks like an option.  Arguments are
read from left to right and the first fault is told, except that a value still being
waited for is only looked at when the next option or positional argument is taken up.
-/
import SkipAudit.Compiler.Invocation
import SkipAudit.Corpus.Discovery
import SkipAudit.Number.Natural

namespace SkipAudit.CommandLine

/-- What the arguments ask for. -/
structure Request where
  compiler : Path
  path : Path
  todo : Bool
  recheck : Bool
  jobs : Option Nat
  /-- The time for a test, in seconds. -/
  seconds : Nat
  target : Text
  includeDir : Path
  libDir : Path
  extension : Text
deriving DecidableEq, Repr

/-- The invocation of the compiler that a request describes. -/
def Request.invocation (r : Request) : Invocation :=
  { compiler := r.compiler, target := r.target, includeDir := r.includeDir, libDir := r.libDir,
    timeout := r.seconds * Invocation.perSecond, workers := r.jobs }

/-- Arguments that make no request. -/
inductive UsageError where
  | missingArgument
  | unknownArgument
  /-- An option or positional argument without its value, or with an empty one where that
  is not allowed. -/
  | missingValue
  /-- A value that cannot be read. -/
  | invalidValue
  /-- An option that was given before. -/
  | repeated
  /-- A value for a flag. -/
  | unexpectedValue
  | helpWanted
  | versionWanted
deriving DecidableEq, Repr

/-- The wording of a usage error. -/
def UsageError.message : UsageError → Text
  | .missingArgument => text "error: a required argument was not provided"
  | .unknownArgument => text "error: unexpected argument found"
  | .missingValue => text "error: a value is required but none was supplied"
  | .invalidValue => text "error: invalid value"
  | .repeated => text "error: an argument cannot be used multiple times"
  | .unexpectedValue => text "error: unexpected value for a flag"
  | .helpWanted => []
  | .versionWanted => []

/-- What can be set by arguments. -/
inductive Setting where
  | compiler
  | path
  | todo
  | recheck
  | jobs
  | timeout
  | target
  | includeDir
  | libDir
  | extension
deriving DecidableEq, Repr

/-- The settings made so far. -/
structure Settings where
  compiler : Option Path
  path : Option Path
  todo : Bool
  recheck : Bool
  jobs : Option Nat
  seconds : Option Nat
  target : Option Text
  includeDir : Option Path
  libDir : Option Path
  extension : Option Text
deriving DecidableEq, Repr

namespace Settings

/-- Nothing is set. -/
def unset : Settings :=
  ⟨none, none, false, false, none, none, none, none, none, none⟩

/-- The setting has been made. -/
def has (s : Settings) : Setting → Bool
  | .compiler => s.compiler.isSome
  | .path => s.path.isSome
  | .todo => s.todo
  | .recheck => s.recheck
  | .jobs => s.jobs.isSome
  | .timeout => s.seconds.isSome
  | .target => s.target.isSome
  | .includeDir => s.includeDir.isSome
  | .libDir => s.libDir.isSome
  | .extension => s.extension.isSome

/-- Numbers are below this. -/
def wordLimit : Nat := Natural.twoTo 64

/-- A number as written on the command line: digits, with a plus sign before them or not,
that fit into 64 bits. -/
def number? (v : Text) : Option Nat :=
  let digits := match v with
    | '+' :: t => t
    | t => t
  match Text.toNat? digits with
  | some n => if n < wordLimit then some n else none
  | none => none

/-- A path is not empty. -/
def readPath (v : Text) : Except UsageError Path :=
  if v = [] then .error .missingValue else .ok (.ofText v)

/-- Make a setting that has not been made before. -/
def set (s : Settings) (which : Setting) (v : Text) : Except UsageError Settings :=
  if s.has which then .error .repeated
  else match which with
    | .compiler => do return { s with compiler := some (← readPath v) }
    | .path => do return { s with path := some (← readPath v) }
    | .todo => .ok { s with todo := true }
    | .recheck => .ok { s with recheck := true }
    | .jobs =>
        match number? v with
        | some (n + 1) => .ok { s with jobs := some (n + 1) }
        | _ => .error .invalidValue
    | .timeout =>
        match number? v with
        | some n => .ok { s with seconds := some n }
        | none => .error .invalidValue
    | .target => .ok { s with target := some v }
    | .includeDir => do return { s with includeDir := some (← readPath v) }
    | .libDir => do return { s with libDir := some (← readPath v) }
    | .extension => .ok { s with extension := some v }

/-- The request, defaults being put for what is not set. -/
def request (s : Settings) : Except UsageError Request :=
  match s.compiler, s.path with
  | some compiler, some path =>
      .ok { compiler, path, todo := s.todo, recheck := s.recheck, jobs := s.jobs
            seconds := s.seconds.getD Invocation.defaultSeconds
            target := s.target.getD Invocation.defaultTarget
            includeDir := s.includeDir.getD Invocation.defaultIncludeDir
            libDir := s.libDir.getD Invocation.defaultLibDir
            extension := s.extension.getD defaultExtension }
  | _, _ => .error .missingArgument

end Settings

/-- What the name of an option means. -/
inductive OptionKind where
  | flag (which : Setting)
  | valued (which : Setting)
  | help
  | version
  | unknown
deriving DecidableEq, Repr

/-- The long options, by name. -/
def longOptions : List (Text × OptionKind) :=
  [(text "todo", .flag .todo), (text "recheck", .flag .recheck), (text "jobs", .valued .jobs),
   (text "timeout", .valued .timeout), (text "target", .valued .target),
   (text "include-dir", .valued .includeDir), (text "lib-dir", .valued .libDir),
   (text "extension", .valued .extension), (text "help", .help), (text "version", .version)]

/-- The meaning of a long option. -/
def ofLong (name : Text) : OptionKind :=
  match longOptions.find? (·.1 == name) with
  | some (_, o) => o
  | none => .unknown

/-- The meaning of a short option. -/
def ofShort (c : Char) : OptionKind :=
  if c = 'j' then .valued .jobs
  else if c = 'h' then .help
  else if c = 'V' then .version
  else .unknown

/-- How far the arguments have been read. -/
structure Reading where
  settings : Settings
  /-- A setting that has been taken up, with its value once it is there. -/
  pending : Option (Setting × Option Text)
  /-- How many positional arguments have been taken up. -/
  positionals : Nat
  /-- `--` has been read. -/
  onlyPositionals : Bool
deriving DecidableEq, Repr

namespace Reading

/-- Before the first argument. -/
def start : Reading := ⟨.unset, none, 0, false⟩

/-- Make the setting that has been taken up. -/
def settle (r : Reading) : Except UsageError Reading :=
  match r.pending with
  | none => .ok r
  | some (_, none) => .error .missingValue
  | some (which, some v) => do
      return { r with settings := ← r.settings.set which v, pending := none }

/-- Take up the next positional argument. -/
def positional (r : Reading) (v : Text) : Except UsageError Reading :=
  let slot? : Option Setting := match r.positionals with
    | 0 => some .compiler
    | 1 => some .path
    | _ => none
  match slot? with
  | none => .error .unknownArgument
  | some which => do
      return { ← r.settle with pending := some (which, some v), positionals := r.positionals + 1 }

/-- Take up an option with the value attached to it, if there is one. -/
def option (r : Reading) (o : OptionKind) (attached : Option Text) : Except UsageError Reading :=
  match o, attached with
  | .unknown, _ => .error .unknownArgument
  | .valued which, some v => do
      let r ← r.settle
      return { r with settings := ← r.settings.set which v }
  | .valued which, none => do
      return { ← r.settle with pending := some (which, none) }
  | .flag which, none => do
      let r ← r.settle
      return { r with settings := ← r.settings.set which [] }
  | .help, none => do
      let _ ← r.settle
      .error .helpWanted
  | .version, none => do
      let _ ← r.settle
      .error .versionWanted
  | _, some _ => .error .unexpectedValue

/-- Take up an argument `--name` or `--name=value`, given without its dashes. -/
def long (r : Reading) (t : Text) : Except UsageError Reading :=
  match t.span (· ≠ '=') with
  | (name, '=' :: v) => r.option (ofLong name) (some v)
  | (name, _) => r.option (ofLong name) none

/-- Take up an argument that begins with the short option `c`: a value may follow it at
once, behind a `=` or not. -/
def short (r : Reading) (c : Char) (rest : Text) : Except UsageError Reading :=
  match ofShort c, rest with
  | .valued which, '=' :: v => r.option (.valued which) (some v)
  | .valued which, v@(_ :: _) => r.option (.valued which) (some v)
  | o, _ => r.option o none

/-- Take up a value or a positional argument. -/
def plain (r : Reading) (t : Text) : Except UsageError Reading :=
  match r.pending with
  | some (which, none) => .ok { r with pending := some (which, some t) }
  | _ => r.positional t

/-- Read one argument. -/
def next (r : Reading) (t : Text) : Except UsageError Reading :=
  if r.onlyPositionals then r.positional t
  else match t with
    | ['-', '-'] => .ok { r with onlyPositionals := true }
    | '-' :: '-' :: rest => r.long rest
    | '-' :: c :: rest => r.short c rest
    | _ => r.plain t

end Reading

/-- Read the arguments of the command line. -/
def read (arguments : List Text) : Except UsageError Request := do
  let r ← arguments.foldlM Reading.next .start
  (← r.settle).settings.request

end SkipAudit.CommandLine
