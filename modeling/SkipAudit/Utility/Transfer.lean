/-
Copying and moving entries from one place to another, as several programs do it.

A transfer looks at what stands at both places, asks or makes room if it has to, and then gives the
entry its new name, or makes another one like it.  What has been copied is remembered, so that
several names of one file stay that, and so that no directory is copied into itself.
-/
import SkipAudit.FileSystem.ModeChange
import SkipAudit.Utility.Backups
import SkipAudit.Utility.Removing

namespace SkipAudit.Utility

namespace Transfer

/-- Which symbolic links are followed. -/
inductive Links where
  | never
  | operands
  | always
deriving DecidableEq

/-- What happens to files that are there. -/
inductive Clash where
  | replaces
  | asks
  /-- They are left alone. -/
  | skips
deriving DecidableEq

/-- How entries are transferred. -/
structure Settings where
  moves : Bool
  installs : Bool
  isDeep : Bool
  links : Links
  /-- Whatever can be read is copied as a regular file. -/
  asRegular : Bool
  clash : Clash
  /-- Only what is newer is transferred. -/
  onlyNewer : Bool
  backup : Backup
  suffix : Octets
  keepsMode : Bool
  /-- Permissions are those of a new file. -/
  forgetsMode : Bool
  keepsOwner : Bool
  keepsTimes : Bool
  keepsLinks : Bool
  /-- Another name is made in the place of a copy. -/
  makesNames : Bool
  makesLinks : Bool
  /-- What is there is removed before. -/
  clearsBefore : Bool
  /-- What is there is removed if it cannot be opened. -/
  clearsAfter : Bool
  isVerbose : Bool
  onlyAttributes : Bool
  mode? : Option Nat

/-- What is remembered during transfers. -/
structure Memory where
  answers : LineSource
  /-- Sources among the operands, by number and name. -/
  sources : List (Nat × Octets)
  /-- What was made for operands, by number and place. -/
  made : List (Nat × List Name)
  /-- What was copied, with the path of its copy. -/
  copies : List (Nat × Octets)
  /-- The first directory for an operand was made. -/
  hasFirst : Bool

/-- Nothing was transferred yet. -/
def Memory.initial : Memory := ⟨.ofInput '\n' 0, [], [], [], false⟩

/-- What a transfer comes to. -/
inductive Outcome where
  | done
  | failed
  /-- The source would have become a part of itself. -/
  | intoItself
deriving DecidableEq

/-- The paths that the user wrote, for complaints about the whole. -/
structure Operands where
  source : Octets
  target : Octets

/-! ## Comparing places -/

/-- The chain of names that a path leads to, a link at its end not followed. -/
def placeOf? (fs : FileSystem) (p : Octets) : Option (List Name) :=
  match fs.locateLast ⟨p⟩ with
  | .ok (.taken place _, _) => some place
  | .ok (.free dir n _, _) => some (dir ++ [n])
  | .error _ => none

/-- Two paths are names of one place. -/
def isSamePlace (fs : FileSystem) (p q : Octets) : Bool :=
  match placeOf? fs p, placeOf? fs q with
  | some a, some b => a == b
  | _, _ => false

/-- Two entries are one. -/
def isSame (a b : Entry) : Bool := FileSystem.sameFile a b

/-- More than one name leads to the entry. -/
def hasSeveralNames (fs : FileSystem) (e : Entry) : Bool :=
  match e with
  | .dir .. => false
  | e => 1 < fs.root.linkCount e

/-- Whether source and target may be what they are; none means that nothing is left to do. -/
def mayClash (fs : FileSystem) (k : Settings) (source target : Octets) (e e' : Entry) :
    Option Bool :=
  let same := isSame e e'
  let link? := (entryAt fs source).toOption
  let link'? := (entryAt fs target).toOption
  let (a, b) := if k.links = .never then (e, e') else (link?.getD e, link'?.getD e')
  let sameLink := isSame a b
  let samePlace := isSamePlace fs source target
  if same && k.makesNames then none
  else if k.links = .never && isLinkEntry e && isLinkEntry e' then
    if samePlace then some false
    else if k.backup ≠ .never then some true
    else if sameLink then (if k.moves then some false else none)
    else some true
  else if k.links ≠ .never && !same then some true
  else if k.links ≠ .never && isLinkEntry a && isLinkEntry b && k.clearsBefore then some true
  else if k.backup ≠ .never then
    if sameLink then some (!samePlace)
    else some (k.moves || k.links = .never || !isLinkEntry a || isLinkEntry b)
  else if (k.moves || k.clearsBefore) && isLinkEntry b then some true
  else if (k.moves || k.clearsBefore) && sameLink && hasSeveralNames fs b && !samePlace then
    some (!k.moves)
  else if !isLinkEntry a && !isLinkEntry b && !sameLink then some true
  else if k.moves && isLinkEntry e && hasSeveralNames fs b then
    match fs.locate true ⟨source⟩, fs.locate false ⟨target⟩ with
    | .ok (.taken p _), .ok (.taken q _) => some (p != q)
    | _, _ => some false
  else if k.makesLinks && isLinkEntry b then some true
  else if k.links = .never then
    let followed (p : Octets) (x : Entry) : Option Entry :=
      if isLinkEntry x then (fs.entry ⟨p⟩).toOption else some x
    match followed source a, followed target b with
    | some x, some y => some (!isSame x y || k.makesNames)
    | _, _ => some true
  else some false

/-! ## Telling -/

/-- Tell what goes where. -/
def announce (c : Call) (what source target : Octets) (backup? : Option Octets) : Action Unit :=
  say c (what ++ c.quoted source ++ text " -> " ++ c.quoted target ++
    (match backup? with
    | some b => text " (backup: " ++ c.quoted b ++ [')']
    | none => []) ++ ['\n'])

/-! ## Copying one thing -/

/-- Permissions that a copy has from the beginning. -/
def Settings.modeOf (k : Settings) (e : Entry) : Nat := k.mode?.getD e.attributes.mode

/-- Give a copy what is kept of the source. -/
def conferAttributes (k : Settings) (e : Entry) (isNew : Bool) (target : Octets) : Action Unit := do
  let source := e.attributes
  let fs ← Action.request .look
  let usual := if isDirectoryEntry e then FileSystem.directoryMode else FileSystem.fileMode
  let isLink := isLinkEntry e
  let f (a : Attributes) : Attributes :=
    let a := if k.keepsTimes then
        { a with accessed := source.accessed, modified := source.modified } else a
    let a := if k.keepsOwner then { a with owner := source.owner, group := source.group } else a
    if isLink then a
    else if k.keepsMode || k.moves then { a with mode := source.mode }
    else match k.mode? with
      | some m => { a with mode := m }
      | none =>
          if k.forgetsMode && isNew then { a with mode := ModeChange.without usual fs.mask } else a
  let _ ← change (·.modifyEntry false ⟨target⟩ f)

/-- Copy the bytes of a file; the result tells whether that was possible. -/
def copyRegular (c : Call) (k : Settings) (e : Entry) (isNew : Bool) (source target : Octets) :
    Action Bool := do
  match ← Action.openFile source .reading with
  | .error cause =>
      c.warn (text "cannot open " ++ c.quoted source ++ text " for reading: " ++ cause.reason)
      return false
  | .ok fd =>
      let refuse (cause : FileError) : Action Bool := do
        closeInput fd
        c.warn (cannot c "cannot create regular file" target cause)
        return false
      let mode := k.modeOf e &&& Permissions.all
      let create : OpenMode := ⟨false, true, true, false, false, true, mode⟩
      let keep : OpenMode := ⟨false, true, false, !k.onlyAttributes, false, false, 0⟩
      let pass (out : Nat) : Action Bool := do
        let ok ← if k.onlyAttributes then pure true
          else Action.repeatUntil false (fun () => do
            match ← Action.read fd Action.blockSize with
            | .ok [] => return .inr true
            | .ok bytes =>
                match ← Action.write out bytes with
                | .ok () => return .inl ()
                | .error cause =>
                    c.warn (cannot c "error writing" target cause)
                    return .inr false
            | .error cause =>
                c.warn (cannot c "error reading" source cause)
                return .inr false) Action.rounds ()
        closeInput fd
        closeInput out
        return ok
      let fs ← Action.request .look
      let makeNew : Action Bool := do
        let fs ← Action.request .look
        if (entryAt fs target).toOption.any isLinkEntry then
          closeInput fd
          c.warn (text "not writing through dangling symlink " ++ c.quoted target)
          return false
        else match ← Action.openFile target create with
          | .ok out =>
              let ok ← pass out
              conferAttributes k e true target
              return ok
          | .error .isDirectory =>
              refuse (if target.getLast? = some '/' then .notDirectory else .isDirectory)
          | .error cause => refuse cause
      if isNew then makeNew
      else match ← Action.openFile target keep with
        | .ok out =>
            let ok ← pass out
            let isOther : Bool := match fs.entry ⟨target⟩ with
              | .ok (.file _) => false
              | _ => true
            if !isOther then conferAttributes k e false (match fs.locate true ⟨target⟩ with
              | .ok (.taken place _) => (FileSystem.pathTo place).written
              | _ => target)
            return ok
        | .error cause =>
            if k.clearsAfter then
              match ← change (·.unlink ⟨target⟩) with
              | some cause =>
                  closeInput fd
                  c.warn (cannot c "cannot remove" target cause)
                  return false
              | none =>
                  if k.isVerbose then say c (text "removed " ++ c.quoted target ++ ['\n'])
                  makeNew
            else refuse cause

/-- Make one more name for a file, in the place of another if that is wanted. -/
def makeName (c : Call) (source target : Octets) (follows replaces isVerbose : Bool) :
    Action Bool := do
  let refuse (e : FileError) : Action Bool := do
    c.warn (text "cannot create hard link " ++ c.quoted target ++ text " to " ++ c.quoted source ++
      text ": " ++ e.reason)
    return false
  match ← change (·.addName follows ⟨source⟩ ⟨target⟩) with
  | none => return true
  | some .alreadyExists =>
      if replaces then
        match ← change fun fs => do (← fs.unlink ⟨target⟩).addName follows ⟨source⟩ ⟨target⟩ with
        | none =>
            if isVerbose then say c (text "removed " ++ c.quoted target ++ ['\n'])
            return true
        | some e => refuse e
      else refuse .alreadyExists
  | some e => refuse e

/-- Make a symbolic link, in the place of something else if that is wanted. -/
def makeSymbolic (text target : Octets) (replaces : Bool) : Action (Option FileError) := do
  match ← change (·.makeLink ⟨target⟩ text) with
  | some .alreadyExists =>
      if replaces then change fun fs => do (← fs.unlink ⟨target⟩).makeLink ⟨target⟩ text
      else return some .alreadyExists
  | r => return r

/-! ## Making room -/

/-- What is to be done after a look at the target. -/
inductive Preparation where
  /-- Go on; the target is new, and what was there was renamed. -/
  | goOn (isNew : Bool) (backup? : Option Octets)
  | stop (o : Outcome)

/-- Whether what is there stays, after a question if need be. -/
def stays (c : Call) (k : Settings) (target : Octets) (m : Memory) : Action (Bool × Memory) :=
  match k.clash with
  | .replaces => pure (false, m)
  | .skips => pure (true, m)
  | .asks => do
      let (isWanted, answers) ←
        confirm (c.name ++ text ": overwrite " ++ c.quoted target ++ text "? ") m.answers
      return (!isWanted, { m with answers })

/-- A source is the backup that its target would get. -/
def isOwnBackup (fs : FileSystem) (k : Settings) (source target : Octets) (e : Entry) : Bool :=
  k.backup ≠ .numbered && lastName source = lastName target ++ k.suffix &&
    (match fs.entry ⟨withoutSlashes target ++ k.suffix⟩ with
    | .ok e' => isSame e e'
    | .error _ => false)

/-- Rename what is there, remove it, or leave it. -/
def makeRoom (c : Call) (k : Settings) (source target : Octets) (e e' : Entry) :
    Action Preparation := do
  let fs ← Action.request .look
  let isDir := isDirectoryEntry e'
  if k.backup ≠ .never && !endsInDots source && (k.moves || !isDir) then
    if isOwnBackup fs k source target e then
      c.warn (text "backing up " ++ c.quoted target ++ text " might destroy source;  " ++
        c.quoted source ++ text (if k.moves then " not moved" else " not copied"))
      return .stop .failed
    else
      let backup := k.backup.pathFor fs k.suffix target
      match ← change (·.rename ⟨withoutSlashes target⟩ ⟨backup⟩) with
      | none => return .goOn true (some backup)
      | some cause =>
          c.warn (cannot c "cannot backup" target cause)
          return .stop .failed
  else if !isDir && !k.moves && k.clearsBefore then
    match ← change (·.unlink ⟨target⟩) with
    | none =>
        if k.isVerbose then say c (text "removed " ++ c.quoted target ++ ['\n'])
        return .goOn true none
    | some cause =>
        c.warn (cannot c "cannot remove" target cause)
        return .stop .failed
  else return .goOn false none

/-- Look at the target `e'`, and prepare it. -/
def prepare (c : Call) (k : Settings) (isOperand : Bool) (source target : Octets) (e e' : Entry)
    (m : Memory) : Action (Preparation × Memory) := do
  let fs ← Action.request .look
  let refuse (t : Octets) : Action (Preparation × Memory) := do
    c.warn t
    return (.stop .failed, m)
  let isDir := isDirectoryEntry e
  let isDir' := isDirectoryEntry e'
  let clashes := if k.clash = .skips then some true else mayClash fs k source target e e'
  match clashes with
  | none => return (.stop .done, m)
  | some false =>
      refuse (c.quoted source ++ text " and " ++ c.quoted target ++ text " are the same file")
  | some true =>
      let isOld := k.onlyNewer && !isDir && e.attributes.modified ≤ e'.attributes.modified
      let (isKept, m) ← if isOld then pure (true, m)
        else if k.moves || !isDir then stays c k target m
        else pure (false, m)
      if isKept then return (.stop .done, m)
      else
        let mayDiffer := k.moves && k.backup ≠ .never
        let isJustMade := isOperand && k.backup ≠ .numbered &&
          (match fs.locate false ⟨target⟩ with
          | .ok (.taken place x) => m.made.contains (x.attributes.identity, place)
          | _ => false)
        if isDir && !isDir' && !mayDiffer then
          refuse (text "cannot overwrite non-directory " ++ c.quoted target ++
            text " with directory " ++ c.quoted source)
        else if !isDir' && isJustMade then
          refuse (text "will not overwrite just-created " ++ c.quoted target ++ text " with " ++
            c.quoted source)
        else if !isDir && isDir' && !mayDiffer then
          refuse (text "cannot overwrite directory " ++ c.quoted target ++
            text " with non-directory")
        else return (← makeRoom c k source target e e', m)

/-! ## Moving -/

/-- Give an entry a name that nothing has. -/
def renameNew (source target : Octets) (fs : FileSystem) : Except FileError FileSystem := do
  match ← fs.locateLast ⟨source⟩ with
  | (.free .., _) => .error .notFound
  | (.taken .., _) =>
      match fs.locateLast ⟨target⟩ with
      | .ok (.taken .., _) =>
          if endsInDots source || endsInDots target then .error .busy else .error .alreadyExists
      | _ => fs.rename ⟨source⟩ ⟨target⟩

/-- The complaint that an entry cannot be moved. -/
def cannotMove (c : Call) (source target : Octets) (cause : FileError) : Octets :=
  text "cannot move " ++ c.quoted source ++ text " to " ++ c.quoted target ++ text ": " ++
    cause.reason

/-- What stood in the way of a target gets its name back. -/
def giveBack (c : Call) (k : Settings) (backup? : Option Octets) (target : Octets) :
    Action Unit := do
  match backup? with
  | none => return
  | some backup =>
      match ← change (·.rename ⟨backup⟩ ⟨target⟩) with
      | some cause => c.warn (cannot c "cannot un-backup" target cause)
      | none =>
          if k.isVerbose then
            say c (c.quoted backup ++ text " -> " ++ c.quoted target ++ text " (unbackup)\n")

/-- Note what stands at a target that was made for an operand. -/
def noteMade (target : Octets) (m : Memory) : Action Memory := do
  let fs ← Action.request .look
  match fs.locate false ⟨target⟩ with
  | .ok (.taken place x) => return { m with made := (x.attributes.identity, place) :: m.made }
  | _ => return m

/-- Move an entry. -/
def move (c : Call) (k : Settings) (source target : Octets) (m : Memory) :
    Action (Outcome × Memory) := do
  let finish (backup? : Option Octets) (m : Memory) : Action (Outcome × Memory) := do
    if k.isVerbose then announce c (text "renamed ") source target backup?
    return (.done, ← noteMade target m)
  let fail (t : Octets) : Action (Outcome × Memory) := do
    c.warn t
    return (.failed, m)
  match ← change (renameNew source target) with
  | none => finish none m
  | some cause =>
      let fs ← Action.request .look
      match entryAt fs source with
      | .error e => fail (cannot c "cannot stat" source e)
      | .ok e =>
          let complete (cause : FileError) (backup? : Option Octets) (m : Memory) :
              Action (Outcome × Memory) := do
            if cause = .invalidArgument then
              c.warn (text "cannot move " ++ c.quoted source ++
                text " to a subdirectory of itself, " ++ c.quoted target)
              giveBack c k backup? target
              return (.intoItself, m)
            else
              c.warn (cannotMove c source target cause)
              giveBack c k backup? target
              return (.failed, m)
          match entryAt fs target with
          | .error .notFound => complete cause none m
          | .error e => fail (cannot c "cannot stat" target e)
          | .ok e' =>
              let (preparation, m) ← prepare c k true source target e e' m
              match preparation with
              | .stop o => return (o, m)
              | .goOn _ backup? =>
                  match ← change (·.rename ⟨source⟩ ⟨target⟩) with
                  | none => finish backup? m
                  | some cause => complete cause backup? m

/-! ## Copying -/

/-- Whether a link at a source is followed. -/
def Settings.follows (k : Settings) (isOperand : Bool) : Bool :=
  k.links = .always || (k.links = .operands && isOperand)

/-- Whether a link at the target stands for itself. -/
def Settings.keepsTarget (k : Settings) (e : Entry) : Bool :=
  let isSpecial : Bool := match e with
    | .file _ => false
    | .dir .. | .link .. => true
    | .device .. => !k.asRegular
  isSpecial || k.makesLinks || k.makesNames || k.backup ≠ .never || k.clearsBefore

/-- Copy an entry that is no directory to a target that is ready. -/
def copyBare (c : Call) (k : Settings) (isOperand isNew : Bool) (source target : Octets)
    (e : Entry) : Action Bool := do
  let refuse (what : String) (cause : FileError) : Action Bool := do
    c.warn (cannot c what target cause)
    return false
  if k.makesLinks then
    let fs ← Action.request .look
    let isHere : Bool := match fs.locateLast ⟨target⟩ with
      | .ok (.taken place _, _) => place.dropLast = fs.cwd
      | .ok (.free dir _ _, _) => dir = fs.cwd
      | .error _ => true
    if source.head? ≠ some '/' && !isHere then
      c.warn (c.shown target ++ text ": can make relative symbolic links only in current directory")
      return false
    else
      match ← makeSymbolic source target k.clearsAfter with
      | none => return true
      | some cause =>
          c.warn (text "cannot create symbolic link " ++ c.quoted target ++ text " to " ++
            c.quoted source ++ text ": " ++ cause.reason)
          return false
  else if k.makesNames then
    makeName c source target (k.follows isOperand) (k.clearsAfter || k.clash = .asks) false
  else match e with
    | .file _ => copyRegular c k e isNew source target
    | .link _ t =>
        match ← makeSymbolic t target k.clearsAfter with
        | none =>
            conferAttributes k e isNew target
            return true
        | some cause => refuse "cannot create symbolic link" cause
    | .device _ d =>
        if k.asRegular then copyRegular c k e isNew source target
        else
          match ← change (·.makeDevice ⟨target⟩ (k.modeOf e) d) with
          | none =>
              conferAttributes k e true target
              return true
          | some cause =>
              refuse
                (if d = .fifo then "cannot create fifo" else "cannot create special file") cause
    | .dir .. => return false

/-- What was copied before, if several names are kept together. -/
def earlier? (fs : FileSystem) (k : Settings) (isOperand : Bool) (e : Entry) (m : Memory) :
    Option Octets :=
  let found := m.copies.lookup e.attributes.identity
  match e with
  | .dir .. => if k.isDeep && !isOperand then found else
      (if k.isDeep then found else none)
  | e =>
      let several := hasSeveralNames fs e || k.links = .always || (k.links = .operands && isOperand)
      if k.keepsLinks && !k.makesNames && several then found else none

/-- Remember where an entry was copied. -/
def remember (e : Entry) (target : Octets) (m : Memory) : Memory :=
  { m with copies := (e.attributes.identity, target) :: m.copies }

/-- Make a directory for a copy, or use the one that is there; the result is its permissions at
the end, if it was made. -/
def makeDirectoryFor (c : Call) (k : Settings) (isNew : Bool) (source target : Octets) (e : Entry)
    (m : Memory) : Action (Option (Option Nat × Memory)) := do
  if !isNew then return some (none, m)
  else
    let mode := k.modeOf e
    match ← change (·.makeDirectory ⟨target⟩ (mode &&& 0o1777)) with
    | some cause =>
        c.warn (cannot c "cannot create directory" target cause)
        return none
    | none =>
        let fs ← Action.request .look
        let m := match fs.entry ⟨target⟩ with
          | .ok made => if m.hasFirst then m else { remember made target m with hasFirst := true }
          | .error _ => m
        if k.isVerbose then announce c [] source target none
        return some (some (ModeChange.without mode fs.mask), m)

/-- How an entry inside a directory is copied: it is below the directories with the given
identities, and what was copied before is known. -/
abbrev Descent := List Nat → Octets → Octets → Memory → Action (Outcome × Memory)

/-- Copy a directory with all that it holds. -/
def copyTree (c : Call) (k : Settings) (descend : Descent) (isOperand isNew : Bool)
    (above : List Nat) (source target : Octets) (e : Entry) (m : Memory) :
    Action (Outcome × Memory) := do
  if above.contains e.attributes.identity then
    c.warn (text "cannot copy cyclic symbolic link " ++ c.quoted source)
    return (.failed, m)
  else
    match ← makeDirectoryFor c k isNew source target e m with
    | none => return (.failed, m)
    | some (mode?, m) =>
        let fs ← Action.request .look
        let inner := match fs.listing? ⟨source⟩ with
          | some l => l.entries.mergeSort fun x y =>
              x.2.attributes.identity ≤ y.2.attributes.identity
          | none => []
        let (o, m) ← inner.foldlM (fun (o, m) (name, _) => do
          if o = Outcome.intoItself then return (o, m)
          else
            let (o', m) ← descend (e.attributes.identity :: above) (inside source name)
              (inside target name) m
            return (if o' = .done then o else o', m)) ((.done, m) : Outcome × Memory)
        match mode? with
        | some mode => do
            let _ ← change (·.setMode ⟨target⟩ mode)
        | none => pure ()
        conferAttributes k e isNew target
        let m ← if isOperand then noteMade target m else pure m
        return (o, m)

/-- Copy an entry; what a directory holds is copied by the given descent. -/
def copyWith (c : Call) (k : Settings) (ops : Operands) (descend : Descent) (isOperand : Bool)
    (above : List Nat) (source target : Octets) (m : Memory) : Action (Outcome × Memory) := do
  let fail (m : Memory) (t : Octets) : Action (Outcome × Memory) := do
    c.warn t
    return (.failed, m)
  let fs ← Action.request .look
  match if k.follows isOperand then fs.entry ⟨source⟩ else entryAt fs source with
  | .error cause => fail m (cannot c "cannot stat" source cause)
  | .ok e =>
      let isDir := isDirectoryEntry e
      let name := (e.attributes.identity, lastName source)
      if isDir && !k.isDeep then
        fail m (text (if k.installs then "omitting directory " else
          "-r not specified; omitting directory ") ++ c.quoted source)
      else if isOperand && !isDir && k.backup = .never && m.sources.contains name then
        c.warn (text "warning: source file " ++ c.quoted source ++ text " specified more than once")
        return (.done, m)
      else
        let m := if isOperand then { m with sources := name :: m.sources } else m
        let target? := if k.keepsTarget e then entryAt fs target else fs.entry ⟨target⟩
        let (preparation, m) ← match target? with
          | .error .notFound => pure (Preparation.goOn true none, m)
          | .error cause =>
              if cause = .tooManyLinks && k.clearsAfter then
                pure (Preparation.goOn false none, m)
              else do
                c.warn (cannot c "cannot stat" target cause)
                pure (Preparation.stop .failed, m)
          | .ok e' => prepare c k isOperand source target e e' m
        match preparation with
        | .stop o => return (o, m)
        | .goOn isNew backup? =>
            let throughLink : Bool := match fs.locate false ⟨target⟩ with
              | .ok (.taken place x) => isOperand && k.backup = .never && isLinkEntry x &&
                  m.made.contains (x.attributes.identity, place)
              | _ => false
            if throughLink then
              fail m (text "will not copy " ++ c.quoted source ++
                text " through just-created symlink " ++ c.quoted target)
            else
              if k.isVerbose && !isDir then announce c [] source target backup?
              match earlier? fs k isOperand e m with
              | some earlier =>
                  if isDir then
                    if isSamePlace fs source earlier then
                      c.warn (text "cannot copy a directory, " ++ c.quoted ops.source ++
                        text ", into itself, " ++ c.quoted ops.target)
                      giveBack c k backup? target
                      return (.intoItself, m)
                    else if isSamePlace fs target earlier then
                      c.warn (text "warning: source directory " ++ c.quoted ops.source ++
                        text " specified more than once")
                      return (.done, m)
                    else if k.follows isOperand then
                      copyTree c k descend isOperand isNew above source target e m
                    else
                      fail m (text "will not create hard link " ++ c.quoted target ++
                        text " to directory " ++ c.quoted earlier)
                  else if ← makeName c earlier target (k.follows isOperand) true k.isVerbose then
                    return (.done, m)
                  else
                    giveBack c k backup? target
                    return (.failed, m)
              | none =>
                  let m := if k.keepsLinks || isDir && isOperand then remember e target m else m
                  if isDir then copyTree c k descend isOperand isNew above source target e m
                  else
                    let ok ← copyBare c k isOperand isNew source target e
                    if !ok then giveBack c k backup? target
                    let m ← if isOperand then noteMade target m else pure m
                    return (if ok then .done else .failed, m)

/-- How the entries inside an operand are copied. -/
def Settings.below (k : Settings) : Settings :=
  if k.links = .operands then { k with links := .never } else k

/-- Copy an entry with all that it holds; the number bounds the depth. -/
def copy (c : Call) (ops : Operands) :
    Nat → Settings → Bool → List Nat → Octets → Octets → Memory → Action (Outcome × Memory)
  | 0, _, _, _, _, _, m => pure (.failed, m)
  | fuel + 1, k, isOperand, above, source, target, m =>
      copyWith c k ops (copy c ops fuel k.below false) isOperand above source target m

/-- Copy or move an operand; the result tells whether that was possible. -/
def operand (c : Call) (k : Settings) (source target : Octets) (m : Memory) :
    Action (Bool × Memory) := do
  let (o, m) ← if k.moves then move c k source target m
    else
      let m := { m with hasFirst := false }
      copy c ⟨source, target⟩ greatestDepth k true [] source target m
  return (o = .done, m)

end Transfer

end SkipAudit.Utility
