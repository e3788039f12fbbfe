/-
The program that searches directories for entries, and does something with those that it finds.
-/
import SkipAudit.Utility.Finding.Parser
import SkipAudit.Utility.Removing
import SkipAudit.Utility.Starting

namespace SkipAudit.Utility

namespace Finding

/-- Which links are followed. -/
inductive Links where
  | never
  | operands
  | always
deriving DecidableEq

/-- A search. -/
structure Search where
  call : Call
  zone : Zone
  now : Int
  test : Test
  bounds : Bounds
  links : Links
  /-- The files that are written, with their descriptors. -/
  files : List (Octets × Nat)

/-- Entries that wait for a program. -/
structure Waiting where
  command : Command
  place : Octets
  /-- The last one first. -/
  paths : List Octets

/-- How far a search has come. -/
structure Progress where
  status : Nat
  /-- What is in the last directory is left out. -/
  isPruned : Bool
  waiting : List Waiting

/-- With a status that counts if it is worse. -/
def Progress.failing (s : Progress) : Progress := { s with status := max 1 s.status }

/-! ## Programs -/

/-- A text with another one in the place of each pair of braces; the number counts the bytes of a
pair that has been replaced. -/
def fillBraces (t : Octets) : Octets → Octets
  | '\x7b' :: '\x7d' :: rest => t ++ fillBraces t rest
  | c :: rest => c :: fillBraces t rest
  | [] => []

/-- A path as it is seen where the entry is. -/
def seenThere (path : Octets) : Octets :=
  let base := baseOf path
  if base.head? = some '/' then base else text "./" ++ base

/-- Run a program where some entries are; it has come to an end without a fault. -/
def Search.launch (k : Search) (m : Command) (place : Octets) (args : List Octets) :
    Action Bool := do
  let c := k.call
  let prepare : Action Unit := do
    if m.asks then withoutInput
    if m.isThere then
      let _ ← Action.request (.changeDirectory place)
  let e ← runToEnd c prepare (fun cause => c.quote (args.headD []) ++ text ": " ++ cause.reason)
    args c.environment
  return match e with
    | .ended (.exited 0) => true
    | _ => false

/-- Run a program for entries that wait for it. -/
def Search.release (k : Search) (w : Waiting) : Action Bool :=
  if w.paths = [] then pure true
  else k.launch w.command w.place (w.command.words ++ w.paths.reverse)

/-- Run all programs for which entries wait. -/
def Search.releaseAll (k : Search) (s : Progress) : Action Progress := do
  let s ← s.waiting.foldlM (fun s w => do
    return if ← k.release w then s else s.failing) s
  return { s with waiting := [] }

/-- Let an entry wait for a program. -/
def Search.await (k : Search) (m : Command) (path : Octets) (s : Progress) : Action Progress := do
  let place := if m.isThere then placeOf path else []
  let shown := if m.isThere then seenThere path else path
  match s.waiting.find? fun w => w.command == m with
  | none => return { s with waiting := s.waiting ++ [⟨m, place, [shown]⟩] }
  | some w =>
      if w.place = place then
        return { s with
          waiting := s.waiting.map fun v =>
            if v.command = m then { v with paths := shown :: v.paths } else v }
      else
        let s := if ← k.release w then s else s.failing
        return { s with
          waiting := s.waiting.map fun v => if v.command = m then ⟨m, place, [shown]⟩ else v }

/-- Ask whether a program is to be run. -/
def Search.isWanted (m : Command) (path : Octets) : Action Bool := do
  if !m.asks then return true
  let _ ← Action.write 2 (text "< " ++ m.words.headD [] ++ text " ... " ++ path ++ text " > ? ")
  let (wanted, _) ← confirm [] (.ofInput '\n' 0)
  return wanted

/-! ## Tests -/

/-- A whole path matches an expression. -/
def matchesWhole (e : Encoding) (r : Regex) (path : Octets) : Bool :=
  (r.stops (.start (e.decode path))).any fun s => s.rest.isEmpty

/-- Write something where it is wanted. -/
def Search.put (k : Search) (target : Target) (t : Octets) : Action Unit :=
  match target with
  | .output => say k.call t
  | .file p =>
      match k.files.find? (·.1 == p) with
      | some (_, fd) => do
          let _ ← Action.write fd t
      | none => pure ()

/-- What is known for writing. -/
def Search.book (k : Search) (fs : FileSystem) : Book := ⟨fs, k.zone, k.now⟩

/-- Permissions stand to others as they have to. -/
def Match.admits (m : Match) (bits mode : Nat) : Bool :=
  match m with
  | .exactly => mode == bits
  | .all => mode &&& bits == bits
  | .any => mode &&& bits != 0

/-- A test that only looks at an entry. -/
def Search.looks (k : Search) (fs : FileSystem) (x : Item) (t : Test) : Bool :=
  let a := x.entry.attributes
  match t with
  | .name g => g.accepts x.name
  | .path g => g.accepts x.path
  | .linkTarget g =>
      match x.entry with
      | .link _ t => g.accepts t
      | _ => false
  | .matching r => matchesWhole k.call.encoding r x.path
  | .kind ls ofTarget =>
      let e := if ofTarget then ((fs.entry ⟨x.path⟩).toOption).getD x.entry else x.entry
      ls.contains (letterOf e)
  | .size n unit => n.admits ((sizeOf x.entry + unit - 1) / unit : Nat)
  | .isEmpty =>
      match x.entry with
      | .file d => d.bytes.isEmpty
      | .dir _ l => l.entries.isEmpty
      | _ => false
  | .days now t n => n.admits ((now - t.of x.entry) / (86400 * Moment.perSecond : Nat))
  | .minutes now t n =>
      let minute : Int := 60 * Moment.perSecond
      let age := now - t.of x.entry
      match n with
      | .less n => age < n * minute
      | .more n => n * minute < age
      | .exactly n => (n - 1) * minute ≤ age && age < n * minute
  | .newer t than => than < t.of x.entry
  | .mode m files directories =>
      m.admits (if isDirectoryEntry x.entry then directories else files) a.mode
  | .owner n => n.admits a.owner
  | .group n => n.admits a.group
  | .hasNoOwner => !Accounts.users.any (·.number == a.owner)
  | .hasNoGroup => !Accounts.groups.any (·.2 == a.group)
  | .names n => n.admits (fs.root.linkCount x.entry)
  | .number n => n.admits a.identity
  | .same e => FileSystem.sameFile e x.entry
  | .isExecutable =>
      match fs.entry ⟨x.path⟩ with
      | .ok e => isDirectoryEntry e || e.attributes.isExecutable
      | .error _ => false
  | .constant b => b
  | _ => true

/-- Remove an entry. -/
def Search.removal (k : Search) (x : Item) : Action Bool := do
  if x.path = ['.'] then return true
  else
    let status ← perform k.call (attempt []
      (fun e => text "cannot delete " ++ k.call.quote x.path ++ text ": " ++ e.reason)
      fun fs => match x.entry with
        | .dir .. => fs.removeDirectory ⟨x.path⟩
        | _ => fs.unlink ⟨x.path⟩)
    return status = 0

/-- Whether a test holds for an entry, after what it does with the entry. -/
def Search.holds (k : Search) (x : Item) : Test → Progress → Action (Bool × Progress)
  | .prune, s => return (true, { s with isPruned := !k.bounds.isDeep })
  | .quit, s => do
      let s ← k.releaseAll s
      Action.exit s.status
  | .delete, s => do
      let done ← k.removal x
      return (done, if done then s else s.failing)
  | .print target lineEnd, s => do
      k.put target (x.path ++ [lineEnd])
      return (true, s)
  | .format target pieces, s => do
      let fs ← Action.request .look
      k.put target ((k.book fs).format x pieces)
      return (true, s)
  | .list target, s => do
      let fs ← Action.request .look
      k.put target ((k.book fs).line x)
      return (true, s)
  | .run m, s => do
      if m.batch?.isSome then return (true, ← k.await m x.path s)
      else if ← Search.isWanted m x.path then
        let shown := if m.isThere then seenThere x.path else x.path
        return (← k.launch m (placeOf x.path) (m.words.map (fillBraces shown)), s)
      else return (false, s)
  | .not t, s => do
      let (b, s) ← k.holds x t s
      return (!b, s)
  | .both a b, s => do
      let (holds, s) ← k.holds x a s
      if holds then k.holds x b s else return (false, s)
  | .either a b, s => do
      let (holds, s) ← k.holds x a s
      if holds then return (true, s) else k.holds x b s
  | .inTurn a b, s => do
      let (_, s) ← k.holds x a s
      k.holds x b s
  | t, s => do
      let fs ← Action.request .look
      return (k.looks fs x t, s)

/-! ## Going through directories -/

/-- Test an entry, if it lies deep enough. -/
def Search.meet (k : Search) (x : Item) (s : Progress) : Action Progress := do
  if x.depth < k.bounds.least then return { s with isPruned := false }
  else
    let (_, s) ← k.holds x k.test { s with isPruned := false }
    return s

/-- What stands at a path now, if something does. -/
def Search.resolve (k : Search) (fs : FileSystem) (depth : Nat) (path : Octets) :
    Except FileError Entry :=
  if k.links = .always || k.links = .operands && depth = 0 then
    match fs.entry ⟨path⟩ with
    | .ok e => .ok e
    | .error _ => entryAt fs path
  else entryAt fs path

/-- Search at a path and below; `above` are the directories on the way, `known?` is what stood
there when its directory was read, and the first number bounds how deep it goes. -/
def Search.visit (k : Search) (start : Octets) :
    Nat → Nat → List (Nat × Octets) → Octets → Option Entry → Progress → Action Progress
  | 0, _, _, _, _, s => return s
  | fuel + 1, depth, above, path, known?, s => do
      let c := k.call
      let fs ← Action.request .look
      let complain (e : FileError) (s : Progress) : Action Progress := do
        c.warn (c.quote path ++ text ": " ++ e.reason)
        return s.failing
      match k.resolve fs depth path, known? with
      | .error e, none => complain e s
      | .error e, some known =>
          if isDirectoryEntry known || !k.test.needsLittle then complain e s
          else k.meet ⟨path, start, depth, known⟩ s
      | .ok (.dir a l), _ =>
          let x : Item := ⟨path, start, depth, .dir a l⟩
          match above.find? fun y => y.1 == a.identity && a.identity != 0 with
          | some y => do
              c.warn (text "File system loop detected; " ++ c.quote path ++
                text " is part of the same file system loop as " ++ c.quote y.2 ++ ['.'])
              return s.failing
          | none =>
              let s ← if k.bounds.isDeep then pure { s with isPruned := false } else k.meet x s
              let s ← if s.isPruned || k.bounds.most?.any (· ≤ depth) then pure s
                else do
                  let fs ← Action.request .look
                  match fs.entry ⟨path⟩ with
                  | .ok (.dir _ l) =>
                      l.entries.foldlM (fun s (n, e) =>
                        k.visit start fuel (depth + 1) ((a.identity, path) :: above)
                          (inside path n) (some e) s) s
                  | .ok _ => complain .notDirectory s
                  | .error e => complain e s
              if k.bounds.isDeep then k.meet x s else return { s with isPruned := false }
      | .ok e, _ => k.meet ⟨path, start, depth, e⟩ s

/-! ## Arguments -/

/-- The options in front of everything else, and the rest. -/
def leadingOptions : Links → List Octets → Links × List Octets
  | links, w :: rest =>
      if w = text "-H" then leadingOptions .operands rest
      else if w = text "-L" then leadingOptions .always rest
      else if w = text "-P" then leadingOptions .never rest
      else if Text.startsWith (text "-O") w && 2 < w.length then leadingOptions links rest
      else if w = text "--" then (links, rest)
      else if w = text "-D" then leadingOptions links (rest.drop 1)
      else (links, w :: rest)
  | links, [] => (links, [])
termination_by _ ws => ws.length

/-- A word begins what is asked. -/
def beginsQuestion (w : Octets) : Bool :=
  Text.startsWith ['-'] w && 1 < w.length || w = ['('] || w = ['!']

/-- Open the files that are written. -/
def openTargets (c : Call) (paths : List Octets) : Action (List (Octets × Nat)) :=
  paths.foldlM (fun found p => do
    if found.any (·.1 == p) then return found
    else match ← Action.openFile p .writing with
      | .ok fd => return found ++ [(p, fd)]
      | .error e => c.die 1 (c.quote p ++ text ": " ++ e.reason)) []

/-- The complaint about leaving out what has been removed already. -/
def pruneTooLate : String :=
  "The -delete action automatically turns on -depth, but -prune does nothing when -depth is in " ++
    "effect.  If you want to carry on anyway, just explicitly use the -depth option."

end Finding

open Finding in
/-- Search directories for entries. -/
def find : Utility := fun c => do
  if c.args.any fun w => w = text "--version" || w = text "-version" then
    say c (text "find (GNU findutils) 4.9.0\n")
    return 0
  if c.args.any fun w => w = text "--help" || w = text "-help" then
    say c (text "Usage: " ++ c.name ++
      text " [-H] [-L] [-P] [-Olevel] [-D debugopts] [path...] [expression]\n")
    return 0
  let (links, args) := leadingOptions .never c.args
  let places := args.takeWhile (!beginsQuestion ·)
  let words := args.dropWhile (!beginsQuestion ·)
  let fs ← Action.request .look
  let now ← momentNow (zoneOf c)
  let k : Setting := ⟨c, fs, now⟩
  let found := readTokens k (words.length + 1) ⟨now.total, .editor c.encoding⟩
    ⟨0, none, false, false, false⟩ words
  match found with
  | .error t => c.die 1 t
  | .ok ws =>
      for w in ws.warnings do c.warn w
      match testOf ws.tokens with
      | .error t => c.die 1 t
      | .ok test =>
          let isPruning (t : Test) : Bool := match t with
            | .prune => true
            | _ => false
          let isDeleting (t : Test) : Bool := match t with
            | .delete => true
            | _ => false
          if test.includes isDeleting && test.includes isPruning && !ws.bounds.isDeepByWord then
            c.die 1 (text pruneTooLate)
          let files ← openTargets c test.files
          let search : Search :=
            { call := c, zone := zoneOf c, now := now.total, bounds := ws.bounds, files
              test := if test.acts then test else .both test (.print .output '\n')
              links := if ws.bounds.follows then .always else links }
          let s ← (if places = [] then [['.']] else places).foldlM
            (fun s place => search.visit place 1000 0 [] place none s) ⟨0, false, []⟩
          let s ← search.releaseAll s
          return s.status

end SkipAudit.Utility
