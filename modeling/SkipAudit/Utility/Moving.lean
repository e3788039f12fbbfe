/-
Programs that copy entries and move them.
-/
import SkipAudit.Utility.Accounts
import SkipAudit.Utility.Making
import SkipAudit.Utility.Transfer

namespace SkipAudit.Utility

namespace Moving

open Transfer

/-! ## Where things go -/

/-- The paths of what goes, and where: into a directory, or to one path. -/
inductive Goal where
  | into (files : List Octets) (dir : Octets)
  | to (file target : Octets)

/-- The refusal to combine two options. -/
def bothTargets : String :=
  "cannot combine --target-directory (-t) and --no-target-directory (-T)"

/-- Find out what goes where, or end with a complaint. -/
def goalOf (c : Call) (p : Parsed) : Action Goal := do
  let dir? := p.value? 't'
  match p.rest, dir? with
  | [], _ => c.misuse 1 (text "missing file operand")
  | [a], none => c.misuse 1 (text "missing destination file operand after " ++ c.quoted a)
  | files, dir? =>
      if p.has 'T' then
        if dir?.isSome then c.die 1 (text bothTargets)
        match files with
        | [a, b] => return .to a b
        | _ => c.misuse 1 (text "extra operand " ++ c.quoted ((files[2]?).getD []))
      else
        let fs ← Action.request .look
        match dir? with
        | some dir =>
            if isDirectory fs dir then return .into files dir
            else
              c.die 1 (text "target directory " ++ c.quoted dir ++ text ": " ++
                (causeAt fs dir).reason)
        | none =>
            let last := files.getLastD []
            if isDirectory fs last then return .into files.dropLast last
            else match files with
              | [a, b] => return .to a b
              | _ =>
                  c.die 1 (text "target " ++ c.quoted last ++ text ": " ++ (causeAt fs last).reason)

/-- The path of something in a directory to which it goes. -/
def pathInside (dir file : Octets) : Octets :=
  let name := lastName file
  inside dir (if name = text ".." then ['.'] else name)

/-- Carry out a transfer for every operand. -/
def transferAll (c : Call) (k : Settings) (stripsSlashes : Bool) (g : Goal) : Action Nat := do
  let stripped (t : Octets) : Octets := if stripsSlashes then withoutSlashes t else t
  match g with
  | .to file target => do
      let (ok, _) ← operand c k (stripped file) target .initial
      return if ok then 0 else 1
  | .into files dir => do
      let (ok, _) ← files.foldlM (fun (ok, m) file => do
        let file := stripped file
        let (ok', m) ← operand c k file (pathInside dir file) m
        return (ok && ok', m)) ((true, .initial) : Bool × Memory)
      return if ok then 0 else 1

/-! ## Options -/

/-- What the options say one after the other of files that are there. -/
def clashOf (isMove : Bool) (options : List (Char × Octets)) : Clash :=
  options.foldl (fun clash (o, _) =>
    match o with
    | 'i' => .asks
    | 'f' => if isMove then .replaces else clash
    | 'n' => .skips
    | _ => clash) .replaces

/-- The refusal of backups where nothing is replaced. -/
def refuseBackup (c : Call) (p : Parsed) (clash : Clash) : Action Unit :=
  if (p.has 'b' || p.has 'S') && clash = .skips then
    c.misuse 1 (text "options --backup and --no-clobber are mutually exclusive")
  else pure ()

/-- What may be kept of a source. -/
inductive Kept where
  | mode
  | timestamps
  | ownership
  | links
  | nothing
  | all
deriving DecidableEq

/-- The words for these. -/
def keptWords : List (String × Kept) :=
  [("mode", .mode), ("timestamps", .timestamps), ("ownership", .ownership), ("links", .links),
   ("context", .nothing), ("xattr", .nothing), ("all", .all)]

/-- The valid words, each on a line of its own. -/
def keptLines : List (String × Nat) := keptWords.zipIdx.map fun (x, i) => (x.1, i)

/-- Settings that keep something of a source, or do not. -/
def withKept (keeps : Bool) (k : Settings) : Kept → Settings
  | .mode => { k with keepsMode := keeps, forgetsMode := !keeps }
  | .timestamps => { k with keepsTimes := keeps }
  | .ownership => { k with keepsOwner := keeps }
  | .links => { k with keepsLinks := keeps }
  | .nothing => k
  | .all => { k with
      keepsMode := keeps, forgetsMode := !keeps, keepsTimes := keeps, keepsOwner := keeps,
      keepsLinks := keeps }

/-- Settings that keep what a list of words says. -/
def withWords (c : Call) (option : String) (keeps : Bool) (k : Settings) (t : Octets) :
    Action Settings :=
  (Text.cutAt ',' t).foldlM (fun k w => do
    let i ← chosen 1 c option keptLines w
    return withKept keeps k (((keptWords[i]?).map (·.2)).getD .nothing)) k

/-- The usual way to copy. -/
def plain : Settings :=
  { moves := false, installs := false, isDeep := false, links := .always, asRegular := true,
    clash := .replaces, onlyNewer := false, backup := .never, suffix := ['~'], keepsMode := false,
    forgetsMode := false, keepsOwner := false, keepsTimes := false, keepsLinks := false,
    makesNames := false, makesLinks := false, clearsBefore := false, clearsAfter := false,
    isVerbose := false, onlyAttributes := false, mode? := none }

/-- Settings with what an option asks for; the second part is which links are followed, if that is
said. -/
def withOption (c : Call) :
    Settings × Option Links → Char × Octets → Action (Settings × Option Links)
  | (k, links?), (o, w) =>
      match o with
      | 'a' => pure ({ withKept true k .all with isDeep := true }, some .never)
      | 'α' => pure ({ k with onlyAttributes := true }, links?)
      | 'd' => pure ({ k with keepsLinks := true }, some .never)
      | 'f' => pure ({ k with clearsAfter := true }, links?)
      | 'H' => pure (k, some .operands)
      | 'l' => pure ({ k with makesNames := true }, links?)
      | 'L' => pure (k, some .always)
      | 'P' => pure (k, some .never)
      | 'p' => pure ([.mode, .ownership, .timestamps].foldl (withKept true) k, links?)
      | 'π' => do
          if w = [] then
            return ([.mode, .ownership, .timestamps].foldl (withKept true) k, links?)
          else return (← withWords c "--preserve" true k w, links?)
      | 'κ' => do return (← withWords c "--no-preserve" false k w, links?)
      | 'R' | 'r' => pure ({ k with isDeep := true }, links?)
      | 'ρ' => pure ({ k with clearsBefore := true }, links?)
      | 's' => pure ({ k with makesLinks := true }, links?)
      | 'v' => pure ({ k with isVerbose := true }, links?)
      | _ => pure (k, links?)

/-- Make the directories of a path below another one, as they are where the path begins; they are
told if that is wanted. -/
def makeParents (c : Call) (k : Settings) (dir path : Octets) : Action Bool := do
  let ancestors := Making.ancestors path
  ancestors.foldlM (fun ok q => do
    if !ok then return false
    else
      let target := inside dir (q.dropWhile (· == '/'))
      let fs ← Action.request .look
      match fs.entry ⟨target⟩, fs.entry ⟨q⟩ with
      | .ok (.dir ..), _ => return true
      | .ok _, _ => do
          c.warn (c.quoted target ++ text " exists but is not a directory")
          return false
      | .error _, .error e => do
          c.warn (cannot c "failed to get attributes of" q e)
          return false
      | .error _, .ok e =>
          match ← change (·.makeDirectory ⟨target⟩ (e.attributes.mode &&& 0o1777)) with
          | some cause => do
              c.warn (cannot c "cannot make directory" target cause)
              return false
          | none => do
              if k.isVerbose then say c (q ++ text " -> " ++ target ++ ['\n'])
              if k.keepsMode || k.keepsOwner || k.keepsTimes then conferAttributes k e true target
              return true) true

end Moving

open Moving Transfer in
/-- Copy entries. -/
def cp : Utility := fun c =>
  withOptions 1 "abdfHilLnprst:uvxPRS:TZ"
    [("archive", 'a', .none), ("attributes-only", 'α', .none), ("backup", 'b', .optional),
     ("copy-contents", 'γ', .none), ("dereference", 'L', .none),
     ("force", 'f', .none), ("interactive", 'i', .none), ("link", 'l', .none),
     ("no-clobber", 'n', .none), ("no-dereference", 'P', .none), ("no-preserve", 'κ', .needed),
     ("no-target-directory", 'T', .none), ("one-file-system", 'x', .none), ("parents", 'φ', .none),
     ("path", 'φ', .none), ("preserve", 'π', .optional), ("recursive", 'R', .none),
     ("remove-destination", 'ρ', .none), ("sparse", 'σ', .needed), ("reflink", 'λ', .optional),
     ("strip-trailing-slashes", 'τ', .none), ("suffix", 'S', .needed),
     ("symbolic-link", 's', .none),
     ("target-directory", 't', .needed), ("update", 'u', .none), ("verbose", 'v', .none),
     ("context", 'Z', .optional)] c fun p => do
    let (k, links?) ← p.options.foldlM (withOption c) (plain, none)
    let clash := clashOf false p.options
    if k.makesNames && k.makesLinks then
      c.misuse 1 (text "cannot make both hard and symbolic links")
    refuseBackup c p clash
    let backup ← Backup.ofOptions c p
    let links := links?.getD (if k.isDeep && !k.makesNames then .never else .always)
    let k := { k with
      clash, backup, links
      onlyNewer := p.has 'u' && clash ≠ .skips
      suffix := Backup.ending c p
      asRegular := if k.isDeep then p.has 'γ' else true
      clearsBefore := k.clearsBefore || (k.clearsAfter && (k.makesNames || k.makesLinks)) }
    let goal ← goalOf c p
    let strips := p.has 'τ'
    match goal with
    | .into files dir =>
        if p.has 'φ' then
          let (ok, _) ← files.foldlM (fun (ok, m) file => do
            let bare := withoutSlashes file
            if ← makeParents c k dir bare then
              let (ok', m) ← operand c k (if strips then bare else file)
                (inside dir (bare.dropWhile (· == '/'))) m
              return (ok && ok', m)
            else return (false, m)) ((true, .initial) : Bool × Memory)
          return if ok then 0 else 1
        else transferAll c k strips goal
    | .to file target =>
        if p.has 'φ' then c.misused 1 (text "with --parents, the destination must be a directory")
        else
          let fs ← Action.request .look
          let isOntoItself := k.clearsAfter && backup ≠ .never && file = target && fs.isFile ⟨file⟩
          if isOntoItself then
            let target := backup.pathFor fs k.suffix target
            transferAll c { k with backup := .never } strips (.to file target)
          else transferAll c k strips goal

open Moving Transfer in
/-- Move entries. -/
def mv : Utility := fun c =>
  withOptions 1 "bfint:uvS:TZ"
    [("backup", 'b', .optional), ("context", 'Z', .none),
     ("force", 'f', .none), ("interactive", 'i', .none), ("no-clobber", 'n', .none),
     ("no-target-directory", 'T', .none),
     ("strip-trailing-slashes", 'τ', .none), ("suffix", 'S', .needed),
     ("target-directory", 't', .needed), ("update", 'u', .none), ("verbose", 'v', .none)] c
    fun p => do
    let clash := clashOf true p.options
    let goal ← goalOf c p
    refuseBackup c p clash
    let backup ← Backup.ofOptions c p
    let k := { plain with
      moves := true
      isDeep := true
      links := .never
      clash, backup
      onlyNewer := p.has 'u' && clash ≠ .skips
      suffix := Backup.ending c p
      isVerbose := p.has 'v' }
    transferAll c k (p.has 'τ') goal

/-! ## Putting programs in place -/

namespace Moving

/-- The permissions of what is put in place. -/
def usualMode : Nat := 0o755

/-- The number of a user or group by name or number, or the end with a complaint. -/
def numberOf (c : Call) (what : String) (find : Octets → Option Nat) (t : Octets) : Action Nat :=
  match find t with
  | some n => pure n
  | none =>
      match Text.toNat? t with
      | some n => pure n
      | none => c.die 1 (text "invalid " ++ text what ++ ' ' :: c.quoted t)

/-- Make a directory and those above it, and tell of each. -/
def makeAll (c : Call) (isVerbose : Bool) (mode : Nat) (path : Octets) : Action Nat := do
  let report ← Action.request (.amend fun fs =>
    let (made, fs, failure?) := Making.makeAbove [] (Making.ancestors path) fs
    let (made, fs, failure?) := match failure? with
      | some x => (made, fs, some x)
      | none =>
          match Making.unmasked fs (·.makeDirectory ⟨path⟩ mode) with
          | .ok fs => (path :: made, fs, none)
          | .error e => if isDirectory fs path then (made, fs, none) else (made, fs, some (path, e))
    let said := made.reverse.flatMap fun q =>
      c.name ++ text ": creating directory " ++ c.quoted q ++ ['\n']
    let writes := if isVerbose then [(Stream.output, said)] else []
    match failure? with
    | none => (fs, ⟨0, writes⟩)
    | some (q, e) =>
        (fs, ⟨1, writes ++ [(.errors, c.complaint (text "cannot create directory " ++ c.quote q ++
          text ": " ++ e.reason))]⟩))
  deliver c report

/-- What is to be put in place is there already. -/
def isInPlace (fs : FileSystem) (mode owner group : Nat) (file target : Octets) : Bool :=
  match fs.entry ⟨file⟩, entryAt fs target with
  | .ok (.file a), .ok (.file b) =>
      a.bytes == b.bytes && b.mode == mode && b.owner == owner && b.group == group
  | _, _ => false

end Moving

open Moving Transfer in
/-- Put files in place with some permissions. -/
def install : Utility := fun c =>
  withOptions 1 "bcCsDdg:m:o:pt:TvS:Z"
    [("backup", 'b', .optional), ("compare", 'C', .none), ("context", 'Z', .optional),
     ("directory", 'd', .none), ("group", 'g', .needed),
     ("mode", 'm', .needed), ("no-target-directory", 'T', .none), ("owner", 'o', .needed),
     ("preserve-timestamps", 'p', .none), ("preserve-context", 'κ', .none), ("strip", 's', .none),
     ("strip-program", 'σ', .needed), ("suffix", 'S', .needed), ("target-directory", 't', .needed),
     ("verbose", 'v', .none)] c fun p => do
    if p.has 'd' && p.has 's' then
      c.die 1 (text "the strip option may not be used when installing a directory")
    if p.has 'd' && p.has 't' then
      c.die 1 (text "target directory not allowed when installing a directory")
    let backup ← Backup.ofOptions c p
    if p.rest = [] then c.misuse 1 (text "missing file operand")
    if p.rest.length = 1 && !p.has 't' && !p.has 'd' then
      c.misuse 1 (text "missing destination file operand after " ++ c.quoted (p.rest.headD []))
    if p.has 'T' then
      if p.has 't' then c.die 1 (text bothTargets)
      match p.rest[2]? with
      | some x => c.misuse 1 (text "extra operand " ++ c.quoted x)
      | none => pure ()
    let mode ← match p.value? 'm' with
      | none => pure usualMode
      | some t =>
          match ModeChange.parse? t with
          | some ms => pure (ModeChange.adjust ms (p.has 'd') 0 0)
          | none => c.die 1 (text "invalid mode " ++ c.quote t)
    let owner ← match p.value? 'o' with
      | none => pure 0
      | some t => numberOf c "user" (fun t => (Accounts.user? t).map (·.number)) t
    let group ← match p.value? 'g' with
      | none => pure 0
      | some t => numberOf c "group" Accounts.group? t
    let own (path : Octets) : Action Unit := do
      if owner ≠ 0 || group ≠ 0 then
        let _ ← change (·.modifyEntry true ⟨path⟩ ({ · with owner, group }))
    if p.has 'd' then
      forEach p.rest fun path => do
        let status ← makeAll c (p.has 'v') mode path
        own path
        return status
    else
      let k := { plain with
        installs := true
        backup
        suffix := Backup.ending c p
        keepsTimes := p.has 'p'
        clearsBefore := true
        isVerbose := p.has 'v'
        mode? := some mode }
      let prepared (dir : Octets) : Action Nat :=
        if p.has 'D' then makeAll c (p.has 'v') usualMode dir else pure 0
      if p.has 'D' then
        match p.value? 't', p.rest with
        | some dir, _ =>
            if (← prepared dir) ≠ 0 then Action.exit 1
        | none, [_, target] =>
            let fs ← Action.request .look
            let above := directoryOf target
            if !isDirectory fs target && !isDirectory fs above then
              if (← prepared above) ≠ 0 then Action.exit 1
        | none, _ => pure ()
      let goal ← goalOf c p
      let one (file target : Octets) (m : Memory) : Action (Bool × Memory) := do
        let fs ← Action.request .look
        if p.has 'C' && isInPlace fs mode owner group file target then return (true, m)
        else
          let (ok, m) ← operand c k file target m
          if ok then own target
          if ok && p.has 's' then
            c.warn (text "cannot run strip: No such file or directory")
            let _ ← change (·.unlink ⟨target⟩)
            c.die 1 (text "strip process terminated abnormally")
          else return (ok, m)
      match goal with
      | .to file target =>
          let (ok, _) ← one file target .initial
          return if ok then 0 else 1
      | .into files dir =>
          let (ok, _) ← files.foldlM (fun (ok, m) file => do
            let (ok', m) ← one file (pathInside dir file) m
            return (ok && ok', m)) ((true, .initial) : Bool × Memory)
          return if ok then 0 else 1

end SkipAudit.Utility
