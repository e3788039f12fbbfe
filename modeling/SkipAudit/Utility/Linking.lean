/-
The program that makes links.
-/
import SkipAudit.Utility.Backups
import SkipAudit.Utility.Paths
import SkipAudit.Utility.Removing

namespace SkipAudit.Utility

namespace Linking

/-- How links are made. -/
structure Settings where
  isSymbolic : Bool
  /-- The text of a link leads from its own directory. -/
  isRelative : Bool
  /-- A name for a link is a name for what it leads to. -/
  follows : Bool
  removes : Bool
  asks : Bool
  backup : Backup
  suffix : Octets
  isVerbose : Bool

/-- The path from the directory of a link to a place. -/
def relativeText (fs : FileSystem) (source target : Octets) : Octets :=
  let k : Pursuit := ⟨.nothing, true⟩
  let dir := if target.contains '/' then directoryOf target else ['.']
  match canonical fs k source, canonical fs k dir with
  | .ok a, .ok b => wayBetween b a
  | _, _ => source

/-- Make a link at once. -/
def make (k : Settings) (source target : Octets) (fs : FileSystem) : Except FileError FileSystem :=
  if k.isSymbolic then fs.makeLink ⟨target⟩ source else fs.addName k.follows ⟨source⟩ ⟨target⟩

/-- The complaint that a link was not made. -/
def refusal (c : Call) (k : Settings) (source target : Octets) (cause : FileError) : Octets :=
  let pair (joint : String) : Octets := c.quoted target ++ text joint ++ c.quoted source
  (if k.isSymbolic then
    text "failed to create symbolic link " ++
      (if cause = .nameTooLong || source = [] then pair " -> " else c.quoted target)
  else
    text "failed to create hard link " ++
      (if cause = .alreadyExists || cause = .noSpace then c.quoted target else pair " => ")) ++
    text ": " ++ cause.reason

/-- Make a link where something stands; the first part of the result tells whether to go on, or
gives the status. -/
def clear (c : Call) (k : Settings) (source target : Octets) (answers : LineSource) :
    Action (Except Nat (Option Octets) × LineSource) := do
  let refuse (t : Octets) : Action (Except Nat (Option Octets) × LineSource) := do
    c.warn t
    return (.error 1, answers)
  let fs ← Action.request .look
  match entryAt fs target with
  | .error .notFound => return (.ok none, answers)
  | .error e => refuse (cannot c "failed to access" target e)
  | .ok (.dir ..) => refuse (c.shown target ++ text ": cannot overwrite directory")
  | .ok e' =>
      let source? := if k.isSymbolic then (fs.entry ⟨source⟩).toOption
        else if k.follows then (fs.entry ⟨source⟩).toOption else (entryAt fs source).toOption
      let place (p : Octets) : Option (List Name) :=
        match fs.locateLast ⟨p⟩ with
        | .ok (.taken place _, _) => some place
        | _ => none
      let isSelf := (k.backup = .never || !k.isSymbolic) && source?.any fun e =>
        FileSystem.sameFile e e' &&
          (fs.root.linkCount e = 1 || ((place source).isSome && place source == place target))
      if isSelf then
        refuse (c.quoted source ++ text " and " ++ c.quoted target ++ text " are the same file")
      else
        let (isWanted, answers) ←
          if k.asks then
            confirm (c.name ++ text ": replace " ++ c.quoted target ++ text "? ") answers
          else pure (true, answers)
        if !isWanted then return (.error 0, answers)
        else if k.backup = .never then return (.ok none, answers)
        else
          let backup := k.backup.pathFor fs k.suffix target
          match ← change (·.rename ⟨target⟩ ⟨backup⟩) with
          | none => return (.ok (some backup), answers)
          | some e => do
              c.warn (cannot c "cannot backup" target e)
              return (.error 1, answers)

/-- Make a link. -/
def linkOne (c : Call) (k : Settings) (source target : Octets) (answers : LineSource) :
    Action (Nat × LineSource) := do
  let tell (source : Octets) (backup? : Option Octets) : Action Unit :=
    if k.isVerbose then
      say c ((match backup? with
        | some b => c.quoted b ++ text " ~ "
        | none => []) ++ c.quoted target ++ text (if k.isSymbolic then " -> " else " => ") ++
        c.quoted source ++ ['\n'])
    else pure ()
  let first ←
    if k.isRelative then pure (some FileError.alreadyExists) else change (make k source target)
  match first with
  | none =>
      tell source none
      return (0, answers)
  | some cause =>
      let fs ← Action.request .look
      let source? := if k.follows then fs.entry ⟨source⟩ else entryAt fs source
      match k.isSymbolic, source? with
      | false, .error e => do
          c.warn (cannot c "failed to access" source e)
          return (1, answers)
      | false, .ok (.dir ..) => do
          c.warn (c.shown source ++ text ": hard link not allowed for directory")
          return (1, answers)
      | _, _ =>
          let source := if k.isRelative then relativeText fs source target else source
          let isForced := k.removes || k.asks || k.backup ≠ .never
          let (room, answers) ←
            if isForced then clear c k source target answers else pure (.ok none, answers)
          match room with
          | .error status => return (status, answers)
          | .ok backup? =>
              let cause? ← if isForced || k.isRelative then
                  change fun fs =>
                    match make k source target fs with
                    | .error .alreadyExists =>
                        if isForced then do make k source target (← fs.unlink ⟨target⟩)
                        else .error .alreadyExists
                    | r => r
                else pure (some cause)
              match cause? with
              | none =>
                  tell source backup?
                  return (0, answers)
              | some cause => do
                  c.warn (refusal c k source target cause)
                  match backup? with
                  | some b =>
                      let _ ← change (·.rename ⟨b⟩ ⟨target⟩)
                  | none => pure ()
                  return (1, answers)

end Linking

open Linking in
/-- Make links. -/
def ln : Utility := fun c =>
  withOptions 1 "bdfinrst:vFLPS:T"
    [("backup", 'b', .optional), ("directory", 'F', .none), ("no-dereference", 'n', .none),
     ("no-target-directory", 'T', .none), ("force", 'f', .none), ("interactive", 'i', .none),
     ("suffix", 'S', .needed), ("target-directory", 't', .needed), ("logical", 'L', .none),
     ("physical", 'P', .none), ("relative", 'r', .none), ("symbolic", 's', .none),
     ("verbose", 'v', .none)] c fun p => do
    let files := p.rest
    if files = [] then c.misuse 1 (text "missing file operand")
    if p.has 'r' && !p.has 's' then c.die 1 (text "cannot do --relative without --symbolic")
    let dir? := p.value? 't'
    let fs ← Action.request .look
    let isTarget (d : Octets) : Bool :=
      isDirectory fs d && !(p.has 'n' && (entryAt fs d).toOption.any isLinkEntry)
    let cause (d : Octets) : FileError := if isDirectory fs d then .notDirectory else causeAt fs d
    let (files, dir?) ← if p.has 'T' then do
        if dir?.isSome then
          c.die 1 (text "cannot combine --target-directory and --no-target-directory")
        match files with
        | [a] => c.misuse 1 (text "missing destination file operand after " ++ c.quoted a)
        | [_, _] => pure (files, none)
        | _ => c.misuse 1 (text "extra operand " ++ c.quoted ((files[2]?).getD []))
      else match dir?, files with
        | some d, _ =>
            if isTarget d then pure (files, some d)
            else c.die 1 (text "target " ++ c.quoted d ++ text ": " ++ (cause d).reason)
        | none, [_] => pure (files, some ['.'])
        | none, [_, b] => pure (if isTarget b then (files.dropLast, some b) else (files, none))
        | none, _ =>
            let d := files.getLastD []
            if isTarget d then pure (files.dropLast, some d)
            else c.die 1 (text "target " ++ c.quoted d ++ text ": " ++ (cause d).reason)
    let backup ← Backup.ofOptions c p
    let k : Settings :=
      ⟨p.has 's', p.has 'r', p.lastOf? ['L', 'P'] = some 'L', p.lastOf? ['f', 'i'] = some 'f',
        p.lastOf? ['f', 'i'] = some 'i', backup, Backup.ending c p, p.has 'v'⟩
    let answers := LineSource.ofInput '\n' 0
    match dir? with
    | some dir =>
        let (status, _) ← files.foldlM (fun (status, answers) file => do
          let (status', answers) ← linkOne c k file (inside dir (lastName file)) answers
          return (max status status', answers)) ((0, answers) : Nat × LineSource)
        return status
    | none =>
        let (status, _) ← linkOne c k (files.headD []) ((files[1]?).getD []) answers
        return status

end SkipAudit.Utility
