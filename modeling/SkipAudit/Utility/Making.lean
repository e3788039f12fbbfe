/-
Programs that make directories, special files and files for a short time, and that give files
second names or take names away.
-/
import SkipAudit.FileSystem.ModeChange
import SkipAudit.Utility.Deeds
import SkipAudit.Utility.Quantity

namespace SkipAudit.Utility

namespace Making

/-! ## Permissions -/

/-- Permissions of what is made, where a change of the usual ones was asked for; what the change
does not decide on is up to the mask. -/
def withChange (isDir : Bool) (mask base : Nat) (ms : List ModeChange) : Nat :=
  let decided := ModeChange.allDecided isDir mask base ms
  (ModeChange.adjust ms isDir mask base &&& decided) |||
    ModeChange.without (ModeChange.without base mask) decided

/-- Do something while nothing is taken away from permissions. -/
def unmasked (fs : FileSystem) (f : FileSystem → Except FileError FileSystem) :
    Except FileError FileSystem := do
  let after ← f { fs with mask := 0 }
  return { after with mask := fs.mask }

/-- The change of permissions behind an option, or the end with a complaint. -/
def modeOr (c : Call) (p : Parsed) (complaint : Octets → Octets) :
    Action (Option (List ModeChange)) :=
  match p.value? 'm' with
  | none => pure none
  | some t =>
      match ModeChange.parse? t with
      | some ms => pure (some ms)
      | none => c.die 1 (complaint t)

/-! ## Directories -/

/-- A path up to each of its names but the last. -/
def ancestors (p : Octets) : List Octets :=
  let rec go : Octets → Octets → List Octets
    | _, [] => []
    | front, '/' :: rest =>
        let later := go (front ++ ['/']) rest
        if front.getLast?.all (· == '/') || rest.all (· == '/') then later else front :: later
    | front, x :: rest => go (front ++ [x]) rest
  go [] p

/-- Make what is missing above the end of a path; the paths of new directories are noted, the last
one first.  The result is where that fails, and why. -/
def makeAbove : List Octets → List Octets → FileSystem →
    List Octets × FileSystem × Option (Octets × FileError)
  | made, [], fs => (made, fs, none)
  | made, p :: ps, fs =>
      let new : Except FileError FileSystem := do
        let mode := ModeChange.without FileSystem.directoryMode (ModeChange.without fs.mask 0o300)
        unmasked fs (·.makeDirectory ⟨p⟩ mode)
      if (FileSystem.endsInDots ⟨p⟩).isSome && isDirectory fs p then makeAbove made ps fs
      else match new with
        | .ok fs => makeAbove (p :: made) ps fs
        | .error e =>
            match fs.entry ⟨p⟩ with
            | .ok (.dir ..) => makeAbove made ps fs
            | .ok _ => (made, fs, some (p, .notDirectory))
            | .error .notFound => (made, fs, some (p, e))
            | .error e => (made, fs, some (p, e))

/-- What making a directory comes to. -/
def makeOne (c : Call) (p : Parsed) (change? : Option (List ModeChange)) (path : Octets)
    (fs : FileSystem) : FileSystem × Report :=
  let isDeep := p.has 'p'
  let (made, fs, failure?) := if isDeep then makeAbove [] (ancestors path) fs else ([], fs, none)
  let mode := withChange true fs.mask FileSystem.directoryMode (change?.getD [])
  let failed (q : Octets) (e : FileError) : List Octets × FileSystem × Option Octets :=
    (made, fs, some (text "cannot create directory " ++ c.quote q ++ text ": " ++ e.reason))
  let (made, fs, complaint?) := match failure? with
    | some (q, e) => failed q e
    | none =>
        match unmasked fs (·.makeDirectory ⟨path⟩ mode) with
        | .ok fs => (path :: made, fs, none)
        | .error e =>
            if isDeep && isDirectory fs path then (made, fs, none) else failed path e
  let said := made.reverse.flatMap fun q =>
    c.name ++ text ": created directory " ++ c.quoted q ++ ['\n']
  let writes := if p.has 'v' then [(Stream.output, said)] else []
  match complaint? with
  | none => (fs, ⟨0, writes⟩)
  | some t => (fs, ⟨1, writes ++ [(.errors, c.complaint t)]⟩)

/-- A warning that contexts are unknown here, if an option gives one. -/
def warnContext (c : Call) (p : Parsed) (letter : Char) : Action Unit :=
  if (p.values letter).any (· ≠ []) then
    c.warn (text "warning: ignoring --context; it requires an SELinux/SMACK-enabled kernel")
  else pure ()

end Making

open Making in
/-- Make directories. -/
def mkdir : Utility := fun c =>
  withOptions 1 "pm:vZ"
    [("context", 'Z', .optional), ("mode", 'm', .needed), ("parents", 'p', .none),
     ("verbose", 'v', .none)] c fun p => do
    warnContext c p 'Z'
    if p.rest = [] then c.misuse 1 (text "missing operand")
    let change? ← modeOr c p fun t => text "invalid mode " ++ c.quote t
    forEach p.rest fun path => do
      deliver c (← Action.request (.amend (makeOne c p change? path)))

namespace Making

/-- A complaint that a directory cannot be removed because its path is that of a link. -/
def isFollowedLink (fs : FileSystem) (path : Octets) : Bool :=
  path.getLast? = some '/' && isDirectory fs path &&
    (entryAt fs (withoutSlashes path)).toOption.any isLinkEntry

/-- The directories above a path, as the path names them. -/
def upwards (path : Octets) : List Octets :=
  let rec go : Nat → Octets → List Octets
    | 0, _ => []
    | n + 1, p =>
        let stem := (p.reverse.dropWhile (· != '/')).reverse
        if stem = [] then []
        else
          let short := withoutSlashes stem
          if short = ['/'] then [['/']] else (short ++ ['/']) :: go n short
  go path.length (withoutSlashes path)

/-- Remove the empty directories above one that was removed. -/
def removeAbove (c : Call) (p : Parsed) : List Octets → Action Nat
  | [] => pure 0
  | q :: qs => do
      let shown := withoutSlashes q
      if p.has 'v' then say c (c.name ++ text ": removing directory, " ++ c.quoted shown ++ ['\n'])
      match ← change (·.removeDirectory ⟨shown⟩) with
      | none => removeAbove c p qs
      | some .notEmpty =>
          if p.has 'ι' then return 0
          else do
            c.warn (cannot c "failed to remove directory" shown .notEmpty)
            return 1
      | some e => do
          let what := if e = .notDirectory then "failed to remove" else "failed to remove directory"
          c.warn (cannot c what shown e)
          return 1

end Making

open Making in
/-- Remove directories that hold nothing. -/
def rmdir : Utility := fun c =>
  withOptions 1 "pv"
    [("ignore-fail-on-non-empty", 'ι', .none), ("path", 'p', .none), ("parents", 'p', .none),
     ("verbose", 'v', .none)] c fun p => do
    if p.rest = [] then c.misuse 1 (text "missing operand")
    forEach p.rest fun path => do
      if p.has 'v' then say c (c.name ++ text ": removing directory, " ++ c.quoted path ++ ['\n'])
      match ← change (·.removeDirectory ⟨path⟩) with
      | none => if p.has 'p' then removeAbove c p (upwards path) else return 0
      | some e =>
          let fs ← Action.request .look
          if e = .notEmpty && p.has 'ι' then return 0
          else if e = .notDirectory && isFollowedLink fs path then
            c.warn (text "failed to remove " ++ c.quoted path ++
              text ": Symbolic link not followed")
            return 1
          else
            c.warn (cannot c "failed to remove" path e)
            return 1

/-! ## Special files -/

namespace Making

/-- Permissions that are asked for, or those of every file. -/
def specialMode (c : Call) (p : Parsed) : Action (Option Nat) := do
  let fs ← Action.request .look
  match ← modeOr c p fun _ => text "invalid mode" with
  | none => return none
  | some ms =>
      let mode := ModeChange.adjust ms false fs.mask FileSystem.fileMode
      if Permissions.all < mode then c.die 1 (text "mode must specify only file permission bits")
      else return some mode

/-- Make a special file, with the permissions that are asked for. -/
def makeSpecial (path : Octets) (mode? : Option Nat) (k : Device) (fs : FileSystem) :
    Except FileError FileSystem :=
  match mode? with
  | none => fs.makeDevice ⟨path⟩ FileSystem.fileMode k
  | some mode => unmasked fs (·.makeDevice ⟨path⟩ mode k)

/-- The device with two numbers. -/
def deviceWith? (isBlock : Bool) (major minor : Nat) : Option Device :=
  if isBlock then none
  else match major, minor with
    | 1, 3 => some .null
    | 1, 5 => some .zero
    | 1, 7 => some .full
    | 1, 8 | 1, 9 => some .random
    | 5, 0 => some .terminal
    | _, _ => none

/-- A number in whatever base its beginning tells. -/
def deviceNumber? (t : Octets) : Option Nat :=
  match Signed64.natural t with
  | some (n, []) => if n < Natural.twoTo 32 then some n else none
  | _ => none

end Making

open Making in
/-- Make special files through which processes talk. -/
def mkfifo : Utility := fun c =>
  withOptions 1 "m:Z" [("context", 'Z', .optional), ("mode", 'm', .needed)] c fun p => do
    warnContext c p 'Z'
    if p.rest = [] then c.misuse 1 (text "missing operand")
    let mode? ← specialMode c p
    performAll c p.rest fun path =>
      attempt [] (cannot c "cannot create fifo" path) (makeSpecial path mode? .fifo)

open Making in
/-- Make a special file. -/
def mknod : Utility := fun c =>
  withOptions 1 "m:Z" [("context", 'Z', .optional), ("mode", 'm', .needed)] c fun p => do
    warnContext c p 'Z'
    let mode? ← specialMode c p
    let isPipe := (p.rest[1]?).any fun t => t.head? = some 'p'
    let wanted := if isPipe then 2 else 4
    if p.rest.length < wanted then
      match p.rest.getLast? with
      | none => c.misuse 1 (text "missing operand")
      | some x =>
          let _ ← Action.write 2 (c.complaint (text "missing operand after " ++ c.quote x))
          if p.rest.length = 2 then
            let _ ← Action.write 2 (text "Special files require major and minor device numbers.\n")
          let _ ← Action.write 2 c.hint
          Action.exit 1
    match p.rest[wanted]? with
    | none => pure ()
    | some x =>
        let _ ← Action.write 2 (c.complaint (extraOperand c x))
        if wanted = 2 && p.rest.length = 4 then
          let _ ← Action.write 2 (text "Fifos do not have major and minor device numbers.\n")
        let _ ← Action.write 2 c.hint
        Action.exit 1
    let path := p.rest.headD []
    let make (k : Device) : Action Nat :=
      perform c (attempt [] (because c path) (makeSpecial path mode? k))
    let number (what t : Octets) : Action Nat :=
      match deviceNumber? t with
      | some n => pure n
      | none => c.die 1 (text "invalid " ++ what ++ text " device number " ++ c.quote t)
    match p.rest with
    | _ :: ('p' :: _) :: _ => make .fifo
    | [_, letter :: more, major, minor] =>
        if letter = 'b' || letter = 'c' || letter = 'u' then
          let i ← number (text "major") major
          let j ← number (text "minor") minor
          match deviceWith? (letter = 'b') i j with
          | some k => make k
          | none => c.die 1 (because c path .notPermitted)
        else c.misused 1 (text "invalid device type " ++ c.quote (letter :: more))
    | _ => c.misused 1 (text "invalid device type " ++ c.quote [])

/-! ## Names -/

/-- Take a name away. -/
def unlink : Utility := fun c =>
  withOptions 1 "" [] c fun p =>
    match p.rest with
    | [] => c.misused 1 (text "missing operand")
    | [path] => perform c (attempt [] (cannot c "cannot unlink" path) (·.unlink ⟨path⟩))
    | _ :: x :: _ => c.misused 1 (extraOperand c x)

/-- Give a file a second name. -/
def link : Utility := fun c =>
  withOptions 1 "" [] c fun p =>
    match p.rest with
    | [] => c.misused 1 (text "missing operand")
    | [a] => c.misused 1 (text "missing operand after " ++ c.quote a)
    | [a, b] =>
        perform c (attempt [] (fun e => text "cannot create link " ++ c.quoted b ++ text " to " ++
          c.quoted a ++ text ": " ++ e.reason) (·.addName false ⟨a⟩ ⟨b⟩))
    | _ :: _ :: x :: _ => c.misused 1 (extraOperand c x)

/-! ## For a short time -/

namespace Making

/-- The letters of which made-up names consist. -/
def nameLetters : Array Char :=
  "abcdefghijklmnopqrstuvwxyzABCDEFGHIJKLMNOPQRSTUVWXYZ0123456789".toList.toArray

/-- A made-up name of some length. -/
def madeUp : Nat → Nat → Octets
  | 0, _ => []
  | n + 1, seed =>
      (nameLetters[(seed / 65536) % nameLetters.size]?).getD 'a' ::
        madeUp n ((seed * 6364136223846793005 + 1442695040888963407) % Natural.twoTo 64)

/-- A template: what stands in front of the letters that are made up, how many these are, and what
follows. -/
structure Template where
  front : Octets
  size : Nat
  back : Octets

/-- The parts of a template, whose ending may be known. -/
def Template.ofText (t : Octets) (ending? : Option Octets) : Template :=
  let stem := match ending? with
    | some _ => t
    | none => (t.reverse.dropWhile (· != 'X')).reverse
  let (stem, found) := if ending?.isNone && stem = [] then (t, []) else (stem, t.drop stem.length)
  let size := (stem.reverse.takeWhile (· == 'X')).length
  ⟨stem.take (stem.length - size), size, ending?.getD found⟩

/-- The directory in which a file for a short time stands, if that is not part of the template. -/
def scratchDirectory (c : Call) (p : Parsed) : Octets :=
  let fromCall := (p.value? 'p').filter (· ≠ [])
  let fromVariable := (c.valueOf? "TMPDIR").filter (· ≠ [])
  let usual := text "/tmp"
  if p.has 't' then fromVariable.getD (fromCall.getD usual)
  else fromCall.getD (fromVariable.getD usual)

/-- How many names are tried. -/
def attempts : Nat := 1000

end Making

open Making in
/-- Make a file or a directory with a name of its own. -/
def mktemp : Utility := fun c =>
  withOptions 1 "dp:qtuV"
    [("directory", 'd', .none), ("quiet", 'q', .none), ("dry-run", 'u', .none),
     ("suffix", 'σ', .needed), ("tmpdir", 'p', .optional)] c fun p => do
    match p.rest with
    | _ :: _ :: _ => c.misuse 1 (text "too many templates")
    | _ => pure ()
    let template := p.rest.headD (text "tmp.XXXXXXXXXX")
    let usesDirectory := p.rest = [] || p.has 'p' || p.has 't'
    let ending? := p.value? 'σ'
    if ending?.isSome && template.getLast? ≠ some 'X' then
      c.die 1 (text "with --suffix, template " ++ c.quote template ++ text " must end in X")
    let parts := Template.ofText template ending?
    if parts.back.contains '/' then
      c.die 1 (text "invalid suffix " ++ c.quote parts.back ++
        text ", contains directory separator")
    let whole := template ++ ending?.getD []
    if parts.size < 3 then c.die 1 (text "too few X's in template " ++ c.quote whole)
    if usesDirectory && p.has 't' && whole.contains '/' then
      c.die 1 (text "invalid template, " ++ c.quote whole ++ text ", contains directory separator")
    if usesDirectory && whole.head? = some '/' then
      c.die 1 (text "invalid template, " ++ c.quote whole ++
        text "; with --tmpdir, it may not be absolute")
    let placed (t : Octets) : Octets := if usesDirectory then inside (scratchDirectory c p) t else t
    let (pid, _) ← Action.request .numbers
    let now ← Action.request .clock
    let fs ← Action.request .look
    let made := (List.range attempts).map fun i =>
      let seed := (pid * 7919 + now * 31 + i) * 2862933555777941757
      placed (parts.front ++ madeUp parts.size seed ++
        parts.back)
    let path := (made.find? fun t => !isTaken fs t).getD (placed whole)
    if p.has 'u' then
      say c (path ++ ['\n'])
      return 0
    else
      let result ← change fun fs =>
        if p.has 'd' then fs.makeDirectory ⟨path⟩ 0o700
        else fs.writeWith ⟨path⟩ 0o600 fun _ => []
      match result with
      | none =>
          say c (path ++ ['\n'])
          return 0
      | some e =>
          if !p.has 'q' then
            let what := if p.has 'd' then "failed to create directory via template "
              else "failed to create file via template "
            c.warn (text what ++ c.quote (placed whole) ++ text ": " ++ e.reason)
          return 1

end SkipAudit.Utility
