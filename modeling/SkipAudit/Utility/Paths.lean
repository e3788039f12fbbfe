/-
Programs that take paths apart and follow them.
-/
import SkipAudit.Utility.Deeds

namespace SkipAudit.Utility

/-! ## Parts -/

/-- What ends a result: a newline, or the zero byte. -/
def resultEnd (p : Parsed) : Octets := if p.has 'z' then [Octets.nul] else ['\n']

/-- Show the name that a path ends in, without an ending. -/
def basename : Utility := fun c =>
  withLeadingOptions 1 "as:z"
    [("multiple", 'a', .none), ("suffix", 's', .needed), ("zero", 'z', .none)] c fun p => do
    let strip (ending name : Octets) : Octets :=
      if name = ending || name = ['/'] then name else (Text.dropEnding? ending name).getD name
    let finish := resultEnd p
    match p.rest with
    | [] => c.misused 1 (text "missing operand")
    | f :: more =>
        if p.has 'a' || p.has 's' then
          say c (p.rest.flatMap fun f => strip ((p.value? 's').getD []) (lastName f) ++ finish)
          return 0
        else match more with
          | _ :: x :: _ => c.misused 1 (extraOperand c x)
          | _ =>
              say c (strip (more.headD []) (lastName f) ++ finish)
              return 0

/-- Show the part of a path in front of its last name. -/
def dirname : Utility := fun c =>
  withOptions 1 "z" [("zero", 'z', .none)] c fun p => do
    if p.rest = [] then c.misused 1 (text "missing operand")
    else
      say c (p.rest.flatMap fun f => directoryOf f ++ resultEnd p)
      return 0

/-- Show the path of the current directory. -/
def pwd : Utility := fun c =>
  withOptions 1 "LP" [("logical", 'L', .none), ("physical", 'P', .none)] c fun p => do
    if p.rest ≠ [] then c.warn (text "ignoring non-option arguments")
    let fs ← Action.request .look
    let isLogical : Bool := match p.lastOf? ['L', 'P'] with
      | some o => o = 'L'
      | none => (c.valueOf? "POSIXLY_CORRECT").isSome
    let named := (c.valueOf? "PWD").filter fun p =>
      p.head? = some '/' &&
      (Text.cutAt '/' p).all (fun n => n ≠ ['.'] && n ≠ ['.', '.']) &&
      (match fs.locate true ⟨p⟩ with
        | .ok (.taken place _) => place = fs.cwd
        | _ => false)
    let physical := fs.currentPath.written
    say c ((if isLogical then named.getD physical else physical) ++ ['\n'])
    return 0

/-! ## Where paths lead -/

/-- How much of a path has to be there. -/
inductive Presence where
  | all
  | allButLast
  | nothing
deriving DecidableEq, Repr

/-- How a path is followed. -/
structure Pursuit where
  presence : Presence
  followsLinks : Bool

/-- What follows a piece asks for a directory: a slash at the end, or dots. -/
def asksDirectory : List Octets → Bool
  | [] => false
  | [] :: rest | ['.'] :: rest => asksDirectory rest || rest.isEmpty
  | n :: _ => n = ['.', '.']

/-- How many links are followed before circles are looked for. -/
def trustedLinks : Nat := 20

/-- More links than stand on any path. -/
def manyLinks : Nat := 1000

/-- Why a path cannot be followed beyond a place, where `rest` is left of it. -/
def refusal? (fs : FileSystem) (f : Pursuit) (place : List Name) (rest : List Octets)
    (found : Except FileError Entry) : Option FileError :=
  let here := fs.entry (FileSystem.pathTo place)
  let cause? : Option FileError :=
    if asksDirectory rest then match here with
      | .ok (.dir ..) => none
      | .ok _ => some .notDirectory
      | .error e => some e
    else match if f.followsLinks then found else here with
      | .ok _ => none
      | .error e => if !f.followsLinks && rest ≠ [] then none else some e
  cause?.filter fun e =>
    f.presence ≠ .nothing &&
      !(f.presence = .allButLast && e = .notFound && rest.all (· == []))

/-- The names from the top to which a path leads.  `seen` are the links that were followed since
circles are looked for, each with what was left of the path. -/
def trace (fs : FileSystem) (f : Pursuit) :
    Nat → List (List Name × List Octets) → List Name → List Octets → Except FileError (List Name)
  | _, _, dir, [] => .ok dir
  | links, seen, dir, n :: rest =>
      if n = [] || n = ['.'] then trace fs f links seen dir rest
      else if n = ['.', '.'] then trace fs f links seen dir.dropLast rest
      else
        let place := dir ++ [n]
        match f.followsLinks, fs.entryItself (FileSystem.pathTo place) with
        | true, .ok (.link _ target) =>
            match links with
            | 0 => .error .tooManyLinks
            | links + 1 =>
                let looksOut : Bool := links + trustedLinks < manyLinks
                if looksOut && seen.contains (dir, n :: rest) then
                  if f.presence = .nothing then trace fs f links seen place rest
                  else .error .tooManyLinks
                else
                  trace fs f links (if looksOut then (dir, n :: rest) :: seen else seen)
                    (if target.head? = some '/' then [] else dir) (Text.cutAt '/' target ++ rest)
        | _, found =>
            match refusal? fs f place rest found with
            | none => trace fs f links seen place rest
            | some e => .error e
termination_by links _ _ pieces => (links, pieces.length)

/-- The names from the top to which a path leads. -/
def canonical (fs : FileSystem) (f : Pursuit) (p : Octets) : Except FileError (List Name) :=
  if p = [] then .error .notFound
  else
    trace fs f manyLinks [] (if p.head? = some '/' then [] else fs.cwd) (Text.cutAt '/' p)

/-- Show where a symbolic link leads. -/
def readlink : Utility := fun c =>
  withOptions 1 "efmnqsvz"
    [("canonicalize", 'f', .none), ("canonicalize-existing", 'e', .none),
     ("canonicalize-missing", 'm', .none), ("no-newline", 'n', .none), ("quiet", 'q', .none),
     ("silent", 's', .none), ("verbose", 'v', .none), ("zero", 'z', .none)] c fun p => do
    if p.rest = [] then c.misused 1 (text "missing operand")
    else
      let skipsEnd := p.has 'n' && p.rest.length = 1
      if p.has 'n' && 1 < p.rest.length then
        c.warn (text "ignoring --no-newline with multiple arguments")
      let isVerbose := p.lastOf? ['q', 's', 'v'] = some 'v'
      let presence? := (p.lastOf? ['e', 'f', 'm']).map fun o =>
        if o = 'e' then Presence.all else if o = 'f' then .allButLast else .nothing
      let fs ← Action.request .look
      forEach p.rest fun file => do
        let found : Except FileError Octets := match presence? with
          | some presence =>
              (canonical fs ⟨presence, true⟩ file).map fun ns => (FileSystem.pathTo ns).written
          | none => match entryAt fs file with
            | .ok (.link _ t) => .ok t
            | .ok _ => .error .invalidArgument
            | .error e => .error e
        match found with
        | .ok t =>
            say c (t ++ (if skipsEnd then [] else resultEnd p))
            return 0
        | .error e =>
            if isVerbose then c.warn (because c file e)
            return 1

/-! ## Relative paths -/

/-- The way from a directory to an entry, where both are given by their names from the top. -/
def wayBetween : List Name → List Name → Octets
  | d :: ds, n :: ns =>
      if d = n then wayBetween ds ns else spelled ((d :: ds).map (fun _ => ['.', '.']) ++ n :: ns)
  | ds, ns => spelled (ds.map (fun _ => ['.', '.']) ++ ns)
where
  /-- Names with slashes between them. -/
  spelled (ns : List Name) : Octets :=
    if ns = [] then ['.'] else (List.intersperse ['/'] ns).flatten

/-- Show where paths lead. -/
def realpath : Utility := fun c =>
  withOptions 1 "eLmPqsz"
    [("canonicalize-existing", 'e', .none), ("canonicalize-missing", 'm', .none),
     ("relative-to", 'τ', .needed), ("relative-base", 'β', .needed), ("quiet", 'q', .none),
     ("strip", 's', .none), ("no-symlinks", 's', .none), ("zero", 'z', .none),
     ("logical", 'L', .none), ("physical", 'P', .none)] c fun p => do
    if p.rest = [] then c.misused 1 (text "missing operand")
    else
      let presence : Presence := match p.lastOf? ['e', 'm'] with
        | some 'e' => .all
        | some _ => .nothing
        | none => .allButLast
      let way := p.lastOf? ['L', 's', 'P']
      let fs ← Action.request .look
      let resolve (t : Octets) : Except FileError (List Name) := do
        let names ← canonical fs ⟨presence, way ≠ some 's' && way ≠ some 'L'⟩ t
        if way = some 'L' then
          canonical fs ⟨presence, true⟩ (FileSystem.pathTo names).written
        else return names
      let directory (t : Octets) : Action (List Name) := do
        match resolve t with
        | .error e => c.die 1 (because c t e)
        | .ok names =>
            if presence = .all && !isDirectory fs (FileSystem.pathTo names).written then
              c.die 1 (because c t .notDirectory)
            else return names
      let to? ← match (p.value? 'τ').or (p.value? 'β') with
        | some t => some <$> directory t
        | none => pure none
      let base? ← match p.value? 'τ', p.value? 'β' with
        | some _, some t => some <$> directory t
        | none, some _ => pure to?
        | _, none => pure none
      let (to?, base?) := match to?, base? with
        | some near, some base => if base.isPrefixOf near then (to?, base?) else (none, none)
        | _, _ => (to?, base?)
      forEach p.rest fun file => do
        match resolve file with
        | .error e =>
            if !p.has 'q' then c.warn (because c file e)
            return 1
        | .ok names =>
            let shown := match to?, base? with
              | some near, some base =>
                  if base.isPrefixOf names then wayBetween near names
                  else (FileSystem.pathTo names).written
              | some near, none => wayBetween near names
              | none, _ => (FileSystem.pathTo names).written
            say c (shown ++ resultEnd p)
            return 0

/-! ## Whether paths can be used -/

/-- The characters that are in use everywhere. -/
def isPortable (x : Char) : Bool := x.isAlphanum || x = '.' || x = '_' || x = '-'

/-- What is wrong with a path, if something is.  `isBasic`: it is to be good for every system;
`isStrict`: also for those who take a hyphen for an option. -/
def pathFault? (c : Call) (isBasic isStrict : Bool) (fs : FileSystem) (t : Octets) :
    Option Octets :=
  let pieces := (Text.cutAt '/' t).filter (· ≠ [])
  let found := entryAt fs t
  let isThere := !isBasic && found.toOption.isSome
  let greatest := if isBasic then 256 else FileSystem.maxPath
  let longest := if isBasic then 14 else FileSystem.maxName
  if isStrict && pieces.any (·.head? = some '-') then
    some (text "leading '-' in a component of file name " ++ c.quoted t)
  else if (isBasic || isStrict) && t = [] then some (text "empty file name")
  else
    let odd? := t.find? fun x => !isPortable x && x ≠ '/'
    match isBasic, odd?, found with
    | true, some x, _ =>
        some (text "nonportable character " ++ c.quote [x] ++ text " in file name " ++ c.quoted t)
    | false, _, .error .nameTooLong =>
        if pieces.any (longest < ·.length) || greatest ≤ t.length then
          some (because c t .nameTooLong)
        else none
    | false, _, .error .notFound => if t = [] then some (because c t .notFound) else none
    | false, _, .error e => some (because c t e)
    | _, _, _ =>
        if !isThere && greatest ≤ t.length then
          some (text "limit " ++ Text.ofNat (greatest - 1) ++ text " exceeded by length " ++
            Text.ofNat t.length ++ text " of file name " ++ c.quoted t)
        else (pieces.find? fun n => !isThere && longest < n.length).map fun n =>
          text "limit " ++ Text.ofNat longest ++ text " exceeded by length " ++
            Text.ofNat n.length ++ text " of file name component " ++ c.quote n

/-- Say whether paths can be used. -/
def pathchk : Utility := fun c =>
  withLeadingOptions 1 "pP" [("portability", 'π', .none)] c fun p => do
    if p.rest = [] then c.misused 1 (text "missing operand")
    else
      let fs ← Action.request .look
      forEach p.rest fun t => do
        match pathFault? c (p.has 'p' || p.has 'π') (p.has 'P' || p.has 'π') fs t with
        | some e =>
            c.warn e
            return 1
        | none => return 0

end SkipAudit.Utility
