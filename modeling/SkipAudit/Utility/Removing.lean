/-
Programs that remove files: at once, or after writing over what they held.
-/
import SkipAudit.Utility.Deeds
import SkipAudit.Utility.LineSource
import SkipAudit.Utility.Quantity
import SkipAudit.Utility.Sizes

namespace SkipAudit.Utility

/-! ## Questions -/

/-- Ask something, and take the next line of the input as the answer. -/
def confirm (question : Octets) (s : LineSource) : Action (Bool × LineSource) := do
  let _ ← Action.write 2 question
  match ← s.next with
  | .ok (some line, s) => return (line.head?.any fun x => x = 'y' || x = 'Y', s)
  | .ok (none, s) => return (false, s)
  | .error _ => return (false, s)

/-- How deep directories may stand in each other. -/
def greatestDepth : Nat := 1000

/-- A path with one slash at its end, if there are more. -/
def withOneSlash (p : Octets) : Octets :=
  let bare := (p.reverse.dropWhile (· == '/')).reverse
  if p.length < bare.length + 2 then p else bare ++ ['/']

/-- A path ends in one or two dots. -/
def endsInDots (p : Octets) : Bool := (FileSystem.endsInDots ⟨p⟩).isSome

namespace Removing

/-- What is removed, and what is asked before. -/
structure Settings where
  isDeep : Bool
  isForced : Bool
  takesEmpty : Bool
  isVerbose : Bool
  asksAlways : Bool

/-- Ask before something is removed, if that is wanted. -/
def Settings.agreed (k : Settings) (c : Call) (what path : Octets) (s : LineSource) :
    Action (Bool × LineSource) :=
  if k.asksAlways then
    confirm (c.name ++ text ": " ++ what ++ ' ' :: c.quoted path ++ text "? ") s
  else pure (true, s)

/-- Remove something that holds nothing. -/
def removeBare (c : Call) (k : Settings) (path : Octets) (isDir : Bool) : Action Nat := do
  match ← change fun fs => if isDir then fs.removeDirectory ⟨path⟩ else fs.unlink ⟨path⟩ with
  | none =>
      if k.isVerbose then
        say c (text (if isDir then "removed directory " else "removed ") ++ c.quoted path ++ ['\n'])
      return 0
  | some e =>
      if k.isForced && isAbsence e && !isDir then return 0
      else do
        c.warn (cannot c "cannot remove" path e)
        return 1

/-- Remove what stands at a path; the number bounds the depth. -/
def removeAt (c : Call) (k : Settings) : Nat → Octets → LineSource → Action (Nat × LineSource)
  | 0, _, s => pure (1, s)
  | fuel + 1, path, s => do
      let refuse (e : FileError) : Action (Nat × LineSource) := do
        c.warn (cannot c "cannot remove" path e)
        return (1, s)
      let fs ← Action.request .look
      match entryAt fs path with
      | .error e => if k.isForced && isAbsence e then return (0, s) else refuse e
      | .ok (.dir _ l) =>
          let inner := l.entries
          if !k.isDeep && !k.takesEmpty then refuse .isDirectory
          else if !k.isDeep && inner ≠ [] then refuse .notEmpty
          else
            let (isWanted, s) ←
              if inner = [] then pure (true, s)
              else k.agreed c (text "descend into directory") path s
            if !isWanted then return (0, s)
            else
              let (status, s) ← inner.foldlM (fun (status, s) (name, _) => do
                let (status', s) ← removeAt c k fuel (inside path name) s
                return (max status status', s)) (0, s)
              let (isWanted, s) ← k.agreed c (text "remove directory") path s
              if isWanted then return (max status (← removeBare c k path true), s)
              else return (status, s)
      | .ok e =>
          let (isWanted, s) ← k.agreed c (text "remove " ++ kindOf e) path s
          if isWanted then return (← removeBare c k path false, s) else return (0, s)

/-- When questions are asked. -/
inductive Asking where
  | never
  | once
  | always
deriving DecidableEq

/-- The words for these. -/
def askingWords : List (String × Asking) :=
  [("never", .never), ("no", .never), ("none", .never), ("once", .once), ("always", .always),
   ("yes", .always)]

/-- Whether questions are asked, and whether missing files are passed over, as the options say one
after the other. -/
def askingOf (c : Call) (options : List (Char × Octets)) : Action (Asking × Bool) :=
  options.foldlM (fun (asking, isForced) (o, w) =>
    match o with
    | 'f' => pure (.never, true)
    | 'i' => pure (.always, false)
    | 'I' => pure (.once, false)
    | 'ι' =>
        if w = [] then pure (.always, isForced)
        else do return (← chosen 1 c "--interactive" askingWords w, isForced)
    | _ => pure (asking, isForced)) (.never, false)

/-- A hint for those who want to name a file that looks like an option. -/
def hyphenHint (c : Call) : Action Unit := do
  let fs ← Action.request .look
  match c.args.find? fun a => a.head? = some '-' && 1 < a.length && isTaken fs a with
  | some a =>
      let _ ← Action.write 2 (text "Try '" ++ c.name ++ text " ./" ++ c.shown a ++
        text "' to remove the file " ++ c.quoted a ++ text ".\n")
  | none => return

/-- The options that removing knows. -/
def known : Known :=
  ⟨"dfirvIR",
    [("force", 'f', .none), ("interactive", 'ι', .optional), ("one-file-system", 'ο', .none),
     ("no-preserve-root", 'π', .none), ("preserve-root", 'ρ', .optional), ("recursive", 'r', .none),
     ("dir", 'd', .none), ("verbose", 'v', .none)], false⟩

/-- The word for giving up the protection of the topmost directory has to be whole. -/
def isShortened (a : Octets) : Bool :=
  let whole := text "--no-preserve-root"
  Text.startsWith (text "--n") a && a.isPrefixOf whole && a ≠ whole

end Removing

open Removing in
/-- Remove files, and directories with all that they hold. -/
def rm : Utility := fun c => do
  let known := { known with words := known.words ++ Known.commonWords }
  let isWrong : Bool := match known.parse c.args with
    | .error m => (aboutItself? c m.before).isNone
    | .ok _ => false
  if isWrong then
    match { known with words := known.words ++ Known.commonWords }.parse c.args with
    | .error m =>
        let _ ← Action.write 2 (c.complaint m.message)
        hyphenHint c
        let _ ← Action.write 2 c.hint
        return 1
    | .ok _ => return 1
  else
    withKnown 1 known c fun p => do
      let options := c.args.takeWhile (· ≠ text "--")
      if options.any isShortened then
        c.die 1 (text "you may not abbreviate the --no-preserve-root option")
      match (p.values 'ρ').find? fun w => w ≠ [] && w ≠ text "all" with
      | some w => c.die 1 (text "unrecognized --preserve-root argument: " ++ c.quoted w)
      | none => pure ()
      let (asking, isForced) ← askingOf c p.options
      let isDeep := p.has 'r' || p.has 'R'
      if p.rest = [] then
        if isForced then return 0 else c.misuse 1 (text "missing operand")
      let keepsRoot := p.lastOf? ['π', 'ρ'] ≠ some 'π'
      let k : Settings := ⟨isDeep, isForced, p.has 'd', p.has 'v', asking = .always⟩
      let source := LineSource.ofInput '\n' 0
      let count := p.rest.length
      let (goesOn, source) ←
        if asking = .once && (isDeep || 3 < count) then
          confirm (c.name ++ text ": remove " ++ Text.ofNat count ++
            text (if count = 1 then " argument" else " arguments") ++
            text (if isDeep then " recursively? " else "? ")) source
        else pure (true, source)
      if !goesOn then return 0
      else
        let (status, _) ← p.rest.foldlM (fun (status, s) file => do
          let path := withOneSlash file
          let fs ← Action.request .look
          let isRoot : Bool := match fs.locate false ⟨path⟩ with
            | .ok (.taken [] _) => true
            | _ => false
          if isDeep && endsInDots path then
            c.warn (text "refusing to remove '.' or '..' directory: skipping " ++ c.quoted path)
            return (1, s)
          else if isDeep && keepsRoot && isRoot then
            let same := if path = ['/'] then [] else text " (same as '/')"
            c.warn (text "it is dangerous to operate recursively on " ++ c.quoted path ++ same)
            c.warn (text "use --no-preserve-root to override this failsafe")
            return (1, s)
          else
            let (status', s) ← removeAt c k greatestDepth path s
            return (max status status', s)) ((0, source) : Nat × LineSource)
        return status

/-! ## Writing over -/

namespace Removing

/-- What happens to the name of a file that was written over. -/
inductive Ending where
  | unlink
  | wipe
  | wipeSync
deriving DecidableEq

/-- The words for these. -/
def endingWords : List (String × Ending) :=
  [("unlink", .unlink), ("wipe", .wipe), ("wipesync", .wipeSync)]

/-- The size of a block of a file. -/
def blockBytes : Nat := 4096

/-- Settings of writing over. -/
structure Shredding where
  passes : Nat
  endsWithZeros : Bool
  isExact : Bool
  isVerbose : Bool
  isForced : Bool
  size? : Option Nat
  ending? : Option Ending

/-- How the passes are called. -/
def Shredding.passNames (k : Shredding) : List String :=
  List.replicate k.passes "random" ++ (if k.endsWithZeros then ["000000"] else [])

/-- Write over the bytes of a file. -/
def Shredding.overwrite (k : Shredding) (identity : Nat) (fs : FileSystem) : FileSystem :=
  match fs.root.fileWith? identity with
  | none => fs
  | some d =>
      let old := d.bytes.length
      let size := match k.size? with
        | some n => n
        | none => if k.isExact then old else (old + blockBytes - 1) / blockBytes * blockBytes
      if size = 0 || k.passNames = [] then fs
      else
        let filling (i : Nat) : UInt8 :=
          if k.endsWithZeros then 0 else (i * 167 + i / 256 * 31).toUInt8
        fs.rewriteFile identity ((List.range size).map filling ++ d.bytes.drop size)

/-- Shorter and shorter names for a file, until it has none. -/
def wipeName (c : Call) (k : Shredding) (shown path : Octets) : Action Unit := do
  let size := (lastName path).length
  let dir := if path.contains '/' then directoryOf path else []
  let final ← (List.range size).foldlM (fun path i => do
    let name := inside dir (List.replicate (size - i) '0')
    let fs ← Action.request .look
    if isTaken fs name then return path
    else
      match ← change (·.rename ⟨path⟩ ⟨name⟩) with
      | some _ => return path
      | none =>
          if k.isVerbose then
            c.warn ((if i = 0 then shown else path) ++ text ": renamed to " ++ name)
          return name) path
  let _ ← change (·.unlink ⟨final⟩)

/-- Write over a file, and remove it if that is wanted. -/
def shredOne (c : Call) (k : Shredding) (file : Octets) : Action Nat := do
  let shown := c.shown file
  let isOutput := file = ['-']
  let opened ← if isOutput then pure (.ok 1) else Action.openFile file .changing
  match opened with
  | .error e =>
      c.warn (shown ++ text ": failed to open for writing: " ++ e.reason)
      return 1
  | .ok fd =>
      match ← Action.request (.inspect fd) with
      | some (.file identity) =>
          let fs ← Action.request .look
          let length := ((fs.root.fileWith? identity).map (·.bytes.length)).getD 0
          if k.isVerbose && (k.size?.getD length) ≠ 0 then
            for (name, i) in k.passNames.zipIdx do
              c.warn (shown ++ text ": pass " ++ Text.ofNat (i + 1) ++ '/' ::
                Text.ofNat k.passNames.length ++ text " (" ++ text name ++ text ")...")
          let _ ← Action.request (.amend fun fs => (k.overwrite identity fs, ⟨0, []⟩))
          if !isOutput then
            closeInput fd
            match k.ending? with
            | none => pure ()
            | some ending =>
                if k.isVerbose then c.warn (shown ++ text ": removing")
                if ending = .unlink then
                  let _ ← change (·.unlink ⟨file⟩)
                else wipeName c k shown file
                if k.isVerbose then c.warn (shown ++ text ": removed")
          return 0
      | _ =>
          if !isOutput then closeInput fd
          c.warn (shown ++ text ": invalid file type")
          return 1

end Removing

open Removing in
/-- Write over files, so that nobody can read what they held. -/
def shred : Utility := fun c =>
  withOptions 1 "fn:s:uvxz"
    [("exact", 'x', .none), ("force", 'f', .none), ("iterations", 'n', .needed),
     ("size", 's', .needed), ("random-source", 'ρ', .needed), ("remove", 'u', .optional),
     ("verbose", 'v', .none), ("zero", 'z', .none)] c fun p => do
    let ending? ← match p.value? 'u' with
      | none => pure none
      | some [] => pure (some Ending.wipeSync)
      | some w => some <$> chosen 1 c "--remove" endingWords w
    let passes ← match p.value? 'n' with
      | none => pure 3
      | some t => countOr 1 c "invalid number of passes" "" 0 (Natural.twoTo 32) t
    let size? ← match p.value? 's' with
      | none => pure none
      | some t => some <$> countOr 1 c "invalid file size" "cbBkKMGTPEZY0" 0 greatestCount t
    if p.rest = [] then c.misuse 1 (text "missing file operand")
    let k : Shredding :=
      ⟨passes, p.has 'z', p.has 'x' || size?.isSome, p.has 'v', p.has 'f', size?, ending?⟩
    forEach p.rest (shredOne c k)

end SkipAudit.Utility
