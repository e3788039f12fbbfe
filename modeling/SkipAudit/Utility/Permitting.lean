/-
Programs that change who may do what with files, and to whom these belong.
-/
import SkipAudit.FileSystem.ModeChange
import SkipAudit.Utility.Accounts
import SkipAudit.Utility.Removing
import SkipAudit.Utility.Traversal

namespace SkipAudit.Utility

namespace Permitting

/-- How much is told. -/
inductive Talk where
  | nothing
  | changes
  | everything
deriving DecidableEq

/-- How much the options say that is told. -/
def talkOf (p : Parsed) : Talk :=
  match p.lastOf? ['c', 'v'] with
  | some 'c' => .changes
  | some _ => .everything
  | none => .nothing

/-- The refusal to go through everything there is. -/
def refuseRoot (c : Call) (path : Octets) : Action Nat := do
  c.warn (text "it is dangerous to operate recursively on " ++ c.quoted path ++
    (if path = ['/'] then [] else text " (same as '/')"))
  c.warn (text "use --no-preserve-root to override this failsafe")
  return 1

/-- The path leads to the topmost directory. -/
def isTop (fs : FileSystem) (path : Octets) : Bool :=
  match fs.locate true ⟨path⟩ with
  | .ok (.taken [] _) => true
  | _ => false

/-! ## Permissions -/

/-- Permissions in four digits of base eight. -/
def fourDigits (n : Nat) : Octets :=
  let ds := Permissions.inOctal n
  List.replicate (4 - ds.length) '0' ++ ds

/-- Permissions in digits and letters. -/
def modeText (n : Nat) : Octets := fourDigits n ++ text " (" ++ Permissions.listed n ++ [')']

/-- What the permissions of a file become. -/
structure Change where
  steps : List ModeChange
  mask : Nat
  /-- It is told if somebody may do more than the spelling of the change suggests. -/
  tellsSurprise : Bool

/-- Change the permissions of a file. -/
def changeMode (c : Call) (k : Change) (talk : Talk) (isSilent : Bool) (v : Visited) :
    Action Nat := do
  let old := v.entry.attributes.mode
  let isDir := isDirectoryEntry v.entry
  if isLinkEntry v.entry then
    if talk = .everything then
      say c (text "neither symbolic link " ++ c.quoted v.path ++
        text " nor referent has been changed\n")
    return 0
  else
    let new := ModeChange.adjust k.steps isDir k.mask old
    match ← change (·.setMode ⟨v.path⟩ new) with
    | some e =>
        if !isSilent then c.warn (cannot c "changing permissions of" v.path e)
        if talk ≠ .nothing then
          say c (text "failed to change mode of " ++ c.quoted v.path ++ text " from " ++
            modeText old ++ text " to " ++ modeText new ++ ['\n'])
        return 1
    | none =>
        if old ≠ new && talk ≠ .nothing then
          say c (text "mode of " ++ c.quoted v.path ++ text " changed from " ++ modeText old ++
            text " to " ++ modeText new ++ ['\n'])
        else if talk = .everything then
          say c (text "mode of " ++ c.quoted v.path ++ text " retained as " ++ modeText new ++
            ['\n'])
        let expected := ModeChange.adjust k.steps isDir 0 old
        if k.tellsSurprise && ModeChange.without new expected ≠ 0 then
          c.warn (c.shown v.path ++ text ": new permissions are " ++ Permissions.listed new ++
            text ", not " ++ Permissions.listed expected)
          return 1
        else return 0

/-- The letters of options that are parts of changes of permissions. -/
def changeLetters : String := "rwxXstugoa,+=01234567"

/-- The arguments that look like options and spell a change of permissions. -/
def changeArguments (args : List Octets) : List Octets :=
  (args.takeWhile (· ≠ text "--")).filter fun a =>
    match a with
    | '-' :: '-' :: _ => false
    | '-' :: rest =>
        match rest.dropWhile fun x => "Rcfv".contains x with
        | x :: _ => changeLetters.contains x
        | [] => false
    | _ => false

end Permitting

open Permitting in
/-- Change permissions. -/
def chmod : Utility := fun c =>
  withOptions 1 "Rcfvr::w::x::X::s::t::u::g::o::a::,::+::=::0::1::2::3::4::5::6::7::"
    [("changes", 'c', .none), ("recursive", 'R', .none), ("no-preserve-root", 'π', .none),
     ("preserve-root", 'ρ', .none), ("quiet", 'f', .none), ("reference", 'σ', .needed),
     ("silent", 'f', .none), ("verbose", 'v', .none)] c fun p => do
    let spelled := (List.intersperse [','] (changeArguments c.args)).flatten
    let reference? := p.value? 'σ'
    if reference?.isSome && spelled ≠ [] then
      c.misuse 1 (text "cannot combine mode and --reference options")
    let takesFirst := reference?.isNone && spelled = []
    let files := if takesFirst then p.rest.drop 1 else p.rest
    let mode := if takesFirst then p.rest.headD [] else spelled
    if files = [] then
      match p.rest with
      | [x] => c.misuse 1 (text "missing operand after " ++ c.quote x)
      | _ => c.misuse 1 (text "missing operand")
    let fs ← Action.request .look
    let steps ← match reference? with
      | some file =>
          match fs.entry ⟨file⟩ with
          | .ok e => pure [⟨'=', ModeChange.allBits, .bits e.attributes.mode, ModeChange.allBits⟩]
          | .error e => c.die 1 (cannot c "failed to get attributes of" file e)
      | none =>
          match ModeChange.parse? mode with
          | some steps => pure steps
          | none => c.misuse 1 (text "invalid mode: " ++ c.quote mode)
    let k : Change := ⟨steps, if reference?.isSome then 0 else fs.mask, spelled ≠ []⟩
    let talk := talkOf p
    let isSilent := p.has 'f'
    let isDeep := p.has 'R'
    forEach files fun file => do
      let path := withOneSlash file
      let fs ← Action.request .look
      match fs.entry ⟨path⟩ with
      | .error e =>
          if !isSilent then
            if (entryAt fs path).toOption.isSome && e = .notFound then
              c.warn (text "cannot operate on dangling symlink " ++ c.quoted path)
            else c.warn (cannot c "cannot access" path e)
          if talk = .everything then say c (c.quoted path ++ text " could not be accessed\n")
          return 1
      | .ok e =>
          if isDeep && p.lastOf? ['π', 'ρ'] = some 'ρ' && isTop fs path then refuseRoot c path
          else if isDeep then
            let met := (Traversal.all .plain fs path e).filter (!·.isAfter)
            met.foldlM (fun status v => do
              return max status (← changeMode c k talk isSilent v)) 0
          else changeMode c k talk isSilent ⟨0, path, e, false⟩

/-! ## Owners -/

namespace Permitting

/-- An owner and a group, with the names under which they are told; what is missing stays. -/
structure Ownership where
  user? : Option (Nat × Octets)
  group? : Option (Nat × Octets)

/-- A number for a user or a group. -/
def identityNumber? (t : Octets) : Option Nat :=
  let t := t.dropWhile Signed64.isSpace
  let u := match t with
    | '+' :: u => u
    | u => u
  match Text.toNat? u with
  | some n => if n < Natural.twoTo 32 - 1 then some n else none
  | none => none

/-- The number of a user. -/
def userNumber? (t : Octets) : Option Nat :=
  if t.head? = some '+' then identityNumber? t
  else match Accounts.user? t with
    | some u => some u.number
    | none => identityNumber? t

/-- The number of a group. -/
def groupNumber? (t : Octets) : Option Nat :=
  if t.head? = some '+' then identityNumber? t
  else match Accounts.group? t with
    | some n => some n
    | none => identityNumber? t

/-- What is wrong with a spelling of an ownership. -/
inductive Fault where
  | user
  | group
  | spec
deriving DecidableEq

/-- The words for a fault. -/
def Fault.words : Fault → String
  | .user => "invalid user"
  | .group => "invalid group"
  | .spec => "invalid spec"

/-- The ownership that a user and a group make up. -/
def ownershipOf (user : Octets) (group? : Option Octets) : Except Fault Ownership :=
  let user? : Except Fault (Option (Nat × Octets)) :=
    if user = [] then .ok none
    else match userNumber? user with
      | some n => .ok (some (n, user))
      | none => .error .user
  match user?, group? with
  | .error e, _ => .error e
  | .ok u, none => .ok ⟨u, none⟩
  | .ok u, some [] =>
      match u with
      | none => .ok ⟨none, none⟩
      | some _ =>
          match Accounts.user? user with
          | some known =>
              if user.head? = some '+' then .error .spec
              else .ok ⟨u, some (known.group, Accounts.groupName known.group)⟩
          | none => .error .spec
  | .ok u, some g =>
      match groupNumber? g with
      | some n => .ok ⟨u, some (n, g)⟩
      | none => .error .group

/-- The ownership that a text spells, and whether it does so with a point. -/
def ownership? (t : Octets) : Except Fault (Ownership × Bool) :=
  match t.span (· != ':') with
  | (user, _ :: group) => (ownershipOf user (some group)).map (·, false)
  | (user, []) =>
      match ownershipOf user none with
      | .ok k => .ok (k, false)
      | .error e =>
          match user.span (· != '.') with
          | (front, _ :: back) =>
              match ownershipOf front (some back) with
              | .ok k => .ok (k, true)
              | .error _ => .error e
          | _ => .error e

/-- Read an ownership, or end with a complaint. -/
def ownershipOr (c : Call) (t : Octets) : Action Ownership :=
  match ownership? t with
  | .ok (k, hasPoint) => do
      if hasPoint then c.warn (text "warning: '.' should be ':': " ++ c.quote t)
      return k
  | .error e => c.die 1 (text e.words ++ text ": " ++ c.quote t)

/-- A user and a group as they are told together. -/
def together : Option Octets → Option Octets → Option Octets
  | some u, some g => some (u ++ ':' :: g)
  | some u, none => some u
  | none, g? => g?

/-- Permissions of what is no directory, after its owner was set. -/
def withoutIdentities (a : Attributes) : Attributes :=
  let mode := ModeChange.without a.mode 0o4000
  { a with mode := if mode &&& 0o010 = 0 then mode else ModeChange.without mode 0o2000 }

/-- How ownership is changed. -/
structure Transfer where
  wanted : Ownership
  /-- Only what belongs to these is changed. -/
  required : Ownership
  follows : Bool
  talk : Talk
  isSilent : Bool

/-- Tell what happened to an entry. -/
def Transfer.tell (k : Transfer) (c : Call) (path : Octets) (old? : Option Attributes)
    (failed isChanged : Bool) : Action Unit := do
  let user? := k.wanted.user?.map (·.2)
  let group? := k.wanted.group?.map (·.2)
  let spec := (together user? group?).getD []
  let old := together
    (if user?.isSome then old?.map fun a => Accounts.userName a.owner else none)
    (if group?.isSome then old?.map fun a => Accounts.groupName a.group else none)
  let what : Octets := text (if user?.isSome then "ownership of " else "group of ") ++ c.quoted path
  let hasAny := user?.isSome || group?.isSome
  let bare : Octets := text "ownership of " ++ c.quoted path
  let line : Octets :=
    if failed then
      if !hasAny then text "failed to change " ++ bare
      else match old with
        | some o => text "failed to change " ++ what ++ text " from " ++ o ++ text " to " ++ spec
        | none => text "failed to change " ++ what ++ text " to " ++ spec
    else if isChanged then
      if !hasAny then text "no change to " ++ bare
      else text "changed " ++ what ++ text " from " ++ old.getD [] ++ text " to " ++ spec
    else if !hasAny then bare ++ text " retained"
    else what ++ text " retained as " ++ old.getD []
  say c (line ++ ['\n'])

/-- Change the ownership of an entry. -/
def Transfer.apply (k : Transfer) (c : Call) (path : Octets) (e : Entry) : Action Nat := do
  let a := e.attributes
  let belongs := k.required.user?.all (·.1 = a.owner) && k.required.group?.all (·.1 = a.group)
  if !belongs then
    if k.talk = .everything then k.tell c path (some a) false false
    return 0
  else
    let owner := (k.wanted.user?.map (·.1)).getD a.owner
    let group := (k.wanted.group?.map (·.1)).getD a.group
    let f (b : Attributes) : Attributes :=
      let b := { b with owner, group }
      if isDirectoryEntry e then b else withoutIdentities b
    match ← change (·.modifyEntry k.follows ⟨path⟩ f) with
    | some cause =>
        if !k.isSilent then c.warn (cannot c "changing ownership of" path cause)
        if k.talk ≠ .nothing then k.tell c path (some a) true false
        return 1
    | none =>
        let isChanged := owner ≠ a.owner || group ≠ a.group
        if k.talk = .everything || (k.talk = .changes && isChanged) then
          k.tell c path (some a) false isChanged
        return 0

/-- Change the ownership of an operand, and of what is below it. -/
def Transfer.operand (k : Transfer) (c : Call) (isDeep followsOperand followsAll keepsTop : Bool)
    (file : Octets) : Action Nat := do
  let path := withOneSlash file
  let fs ← Action.request .look
  match if k.follows || followsOperand then fs.entry ⟨path⟩ else entryAt fs path with
  | .error e =>
      if !k.isSilent then
        c.warn (cannot c (if (entryAt fs path).toOption.isSome then "cannot dereference" else
          "cannot access") path e)
      if k.talk = .everything then k.tell c path none true false
      return 1
  | .ok e =>
      if isDeep && keepsTop && isTop fs path then refuseRoot c path
      else if isDeep then
        let way := { Traversal.Settings.plain with follows := followsAll }
        let met := (Traversal.all way fs path e).filter
          fun v => v.isAfter || !isDirectoryEntry v.entry
        met.foldlM (fun status v => do return max status (← k.apply c v.path v.entry)) 0
      else k.apply c path e

/-- The words of the options for owners. -/
def ownerWords : List Word :=
  [("recursive", 'R', .none), ("changes", 'c', .none), ("dereference", 'δ', .none),
   ("from", 'φ', .needed), ("no-dereference", 'h', .none), ("no-preserve-root", 'π', .none),
   ("preserve-root", 'ρ', .none), ("quiet", 'f', .none), ("silent", 'f', .none),
   ("reference", 'σ', .needed), ("verbose", 'v', .none)]

/-- Change owners as the options say; `read` reads the first operand. -/
def changeOwners (c : Call) (p : Parsed) (onlyGroup : Bool) (read : Octets → Action Ownership) :
    Action Nat := do
  let isDeep := p.has 'R'
  let traverse := p.lastOf? ['H', 'L', 'P']
  let isPhysical := traverse = none || traverse = some 'P'
  let dereference := p.lastOf? ['δ', 'h']
  if isDeep && isPhysical && dereference = some 'δ' then
    c.die 1 (text "-R --dereference requires either -H or -L")
  let follows := if isDeep && isPhysical then false else dereference ≠ some 'h'
  let reference? := p.value? 'σ'
  let needed := if reference?.isSome then 1 else 2
  if p.rest.length < needed then
    match p.rest.getLast? with
    | some x => c.misuse 1 (text "missing operand after " ++ c.quote x)
    | none => c.misuse 1 (text "missing operand")
  let required ← match p.value? 'φ' with
    | some t => ownershipOr c t
    | none => pure ⟨none, none⟩
  let wanted ← match reference? with
    | some file => do
        let fs ← Action.request .look
        match fs.entry ⟨file⟩ with
        | .ok e =>
            let a := e.attributes
            pure ⟨if onlyGroup then none else some (a.owner, Accounts.userName a.owner),
              some (a.group, Accounts.groupName a.group)⟩
        | .error e => c.die 1 (cannot c "failed to get attributes of" file e)
    | none => read (p.rest.headD [])
  let files := if reference?.isSome then p.rest else p.rest.drop 1
  let k : Transfer := ⟨wanted, required, follows, talkOf p, p.has 'f'⟩
  let keepsTop := p.lastOf? ['π', 'ρ'] = some 'ρ'
  let followsAll := traverse = some 'L'
  forEach files (k.operand c isDeep (traverse = some 'H' || followsAll) followsAll
    keepsTop)

end Permitting

open Permitting in
/-- Change owners and groups. -/
def chown : Utility := fun c =>
  withOptions 1 "HLPRcfhv" ownerWords c fun p => changeOwners c p false (ownershipOr c)

open Permitting in
/-- Change groups. -/
def chgrp : Utility := fun c =>
  withOptions 1 "HLPRcfhv" (ownerWords.filter fun w => w.1 ≠ "from") c fun p =>
    changeOwners c p true fun t =>
      if t = [] then pure ⟨none, none⟩
      else match groupNumber? t with
        | some n => pure ⟨none, some (n, t)⟩
        | none => c.die 1 (text "invalid group: " ++ c.quote t)

end SkipAudit.Utility
