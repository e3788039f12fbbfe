/-
Programs that tell how much room files take up.
-/
import SkipAudit.Utility.Dates
import SkipAudit.Utility.Deeds
import SkipAudit.Utility.Globs
import SkipAudit.Utility.Sizes

namespace SkipAudit.Utility

namespace Usage

/-- What some entries come to. -/
structure Sum where
  size : Nat
  entries : Nat
  /-- The latest of their times. -/
  latest : Int

/-- Two sums together. -/
def Sum.plus (a b : Sum) : Sum := ⟨a.size + b.size, a.entries + b.entries, max a.latest b.latest⟩

/-- Which time of an entry counts. -/
inductive Time where
  | modified
  | accessed
  | changed
deriving DecidableEq

/-- The words for these. -/
def timeWords : List (String × Time) :=
  [("atime", .accessed), ("access", .accessed), ("use", .accessed), ("ctime", .changed),
   ("status", .changed)]

/-- The time of an entry. -/
def Time.of (t : Time) (e : Entry) : Int :=
  match t with
  | .modified => e.attributes.modified
  | .accessed => e.attributes.accessed
  | .changed => e.attributes.changed

/-- The words for ways to show times. -/
def timeStyles : List (String × String) :=
  [("full-iso", "%Y-%m-%d %H:%M:%S.%N %z"), ("long-iso", "%Y-%m-%d %H:%M"), ("iso", "%Y-%m-%d")]

/-- What is counted, and how it is shown. -/
structure Settings where
  showsFiles : Bool
  greatestDepth : Nat
  /-- Directories do not count for those above them. -/
  isSeparate : Bool
  /-- The bytes of files count, and not the room for them. -/
  isApparent : Bool
  countsEntries : Bool
  follows : Bool
  followsOperands : Bool
  /-- Whatever was met before does not count again. -/
  remembersAll : Bool
  /-- Files count once for each of their names. -/
  countsNames : Bool
  excluded : List Glob
  threshold : Int
  style : SizeStyle
  time : Time
  timeFormat? : Option Octets
  zone : Zone
  lineEnd : Char

/-! ## Counting -/

/-- What an entry comes to by itself. -/
def Settings.own (k : Settings) (e : Entry) : Sum :=
  let size := if k.isApparent then sizeOf e else roomOf e
  ⟨size, 1, k.time.of e⟩

/-- A path is left out: a pattern matches it, or an end of it that begins behind a slash. -/
def Settings.leavesOut (k : Settings) (path : Octets) : Bool :=
  k.excluded.any fun g => g.accepts path || (endsOf path).any g.accepts
where
  /-- The ends of a path that begin behind a slash. -/
  endsOf : Octets → List Octets
    | '/' :: c :: t => if c = '/' then endsOf (c :: t) else (c :: t) :: endsOf (c :: t)
    | _ :: t => endsOf t
    | [] => []

/-- An entry that is met again does not count. -/
def Settings.remembers (k : Settings) (fs : FileSystem) (e : Entry) : Bool :=
  !k.countsNames &&
    (k.remembersAll || !isDirectoryEntry e && 1 < fs.root.linkCount e)

/-- What was found: the numbers of what is remembered, the lines to show, and the sum. -/
structure Found where
  seen : List Nat
  lines : List (Sum × Octets)
  /-- The sum of all, and of what is no directory. -/
  whole : Sum
  files : Sum

/-- Count an entry with all that is below it; the first number bounds how deep that is. -/
def Settings.visit (k : Settings) (fs : FileSystem) :
    Nat → Nat → Octets → Entry → Found → Found
  | 0, _, _, _, found => found
  | fuel + 1, depth, path, e, found =>
      let e := if k.follows && isLinkEntry e then ((fs.entry ⟨path⟩).toOption).getD e else e
      let identity := e.attributes.identity
      let isKnown := k.remembers fs e && found.seen.contains identity
      if k.leavesOut path || isKnown then found
      else
        let seen := if k.remembers fs e then identity :: found.seen else found.seen
        let own := k.own e
        match e with
        | .dir _ l =>
            let inner := l.entries.foldl (fun f (n, e) =>
              Settings.visit k fs fuel (depth + 1) (inside path n) e f)
              ⟨seen, [], ⟨0, 0, own.latest⟩, ⟨0, 0, own.latest⟩⟩
            let shown := own.plus (if k.isSeparate then inner.files else inner.whole)
            { seen := inner.seen
              lines := found.lines ++ inner.lines ++
                (if depth ≤ k.greatestDepth then [(shown, path)] else [])
              whole := found.whole.plus (own.plus inner.whole)
              files := found.files }
        | _ =>
            { seen
              lines := found.lines ++
                (if depth = 0 || k.showsFiles && depth ≤ k.greatestDepth then [(own, path)] else [])
              whole := found.whole.plus own
              files := found.files.plus own }

/-! ## Lines -/

/-- What counts of a sum. -/
def Settings.amount (k : Settings) (s : Sum) : Nat := if k.countsEntries then s.entries else s.size

/-- The line for a sum. -/
def Settings.line (k : Settings) (s : Sum) (path : Octets) : Octets :=
  let style := match k.countsEntries, k.style with
    | true, .blocks .. => SizeStyle.bytes
    | _, style => style
  style.write (k.amount s) ++
    (match k.timeFormat? with
      | some f => '\t' :: (Moment.ofNanoseconds k.zone s.latest).write f
      | none => []) ++
    '\t' :: path ++ [k.lineEnd]

/-- A sum is shown. -/
def Settings.shows (k : Settings) (s : Sum) : Bool :=
  if k.threshold < 0 then (k.amount s : Int) ≤ -k.threshold else k.threshold ≤ k.amount s

/-! ## Options -/

/-- The words of the options. -/
def words : List Word :=
  [("all", 'a', .none), ("apparent-size", 'α', .none), ("block-size", 'β', .needed),
   ("bytes", 'b', .none), ("count-links", 'l', .none), ("dereference", 'L', .none),
   ("dereference-args", 'D', .none), ("exclude", 'ε', .needed), ("exclude-from", 'X', .needed),
   ("files0-from", 'φ', .needed), ("human-readable", 'h', .none), ("inodes", 'ι', .none),
   ("si", 'σ', .none), ("max-depth", 'd', .needed), ("null", '0', .none),
   ("no-dereference", 'P', .none), ("one-file-system", 'x', .none), ("separate-dirs", 'S', .none),
   ("summarize", 's', .none), ("total", 'c', .none), ("threshold", 'θ', .needed),
   ("time", 'τ', .optional), ("time-style", 'ς', .needed)]

/-- The style of sizes and whether bytes count, by the options one after the other. -/
def styleOf (c : Call) (options : List (Char × Octets)) : Action (SizeStyle × Bool) :=
  let usual := (SizeStyle.ofVariables? c ["DU_BLOCK_SIZE", "BLOCK_SIZE", "BLOCKSIZE"]).getD
    (SizeStyle.usual c)
  options.foldlM (fun (style, isApparent) (o, w) =>
    match o with
    | 'b' => pure (.bytes, true)
    | 'α' => pure (style, true)
    | 'h' => pure (.powers 1024, isApparent)
    | 'σ' => pure (.powers 1000, isApparent)
    | 'k' => pure (.blocks 1024 [], isApparent)
    | 'm' => pure (.blocks 1048576 [], isApparent)
    | 'B' => do return (← SizeStyle.ofOption 1 c "-B" w, isApparent)
    | 'β' => do return (← SizeStyle.ofOption 1 c "--block-size" w, isApparent)
    | _ => pure (style, isApparent)) (usual, false)

/-- The size from which on, or up to which, something is shown. -/
def thresholdOf (c : Call) (options : List (Char × Octets)) : Action Int :=
  options.foldlM (fun threshold (o, w) =>
    let name := if o = 't' then "-t" else "--threshold"
    if o = 't' || o = 'θ' then
      match w with
      | '-' :: rest => do
          match count SizeStyle.units rest with
          | .ok 0 => c.die 1 (text "invalid --threshold argument '-0'")
          | .ok n => return -(n : Int)
          | .error _ => return (← optionCount 1 c name SizeStyle.units w : Nat)
      | w => do return (← optionCount 1 c name SizeStyle.units w : Nat)
    else pure threshold) 0

/-- The patterns of what is left out. -/
def excludedBy (c : Call) (options : List (Char × Octets)) : Action (List Glob) :=
  options.foldlM (fun globs (o, w) =>
    match o with
    | 'ε' => pure (globs ++ [Glob.ofText c false w])
    | 'X' => do
        match ← readInput w with
        | .ok t => return globs ++ (linesOf t).map fun l => Glob.ofText c false (bare l)
        | .error e => c.misuse 1 (because c w e)
    | _ => pure globs) []

/-- How times are shown. -/
def timeFormatOf (c : Call) (p : Parsed) : Action Octets := do
  match (p.value? 'ς').getD ((c.valueOf? "TIME_STYLE").getD (text "long-iso")) with
  | '+' :: t => return t
  | w => return text (← chosen 1 c "time style" timeStyles w)

/-- The names in a list, each ended by a zero byte. -/
def namesIn (c : Call) (list : Octets) : Action (List Octets) := do
  match ← readInput list with
  | .ok t =>
      let names := Text.cutAt Octets.nul t
      return if names.getLast? = some [] then names.dropLast else names
  | .error e => c.die 1 (text "cannot open " ++ c.quoted list ++ text " for reading: " ++ e.reason)

/-- How deep lines go, by the options. -/
def depthOf (c : Call) (p : Parsed) : Action Nat := do
  let given? ← p.values 'd' |>.foldlM (fun (_ : Option Nat) w =>
    match Signed64.natural w with
    | some (n, []) => pure (some n)
    | _ => c.misuse 1 (text "invalid maximum depth " ++ c.quote w)) none
  if !p.has 's' then return given?.getD 1000
  else
    if p.has 'a' then c.misuse 1 (text "cannot both summarize and show all entries")
    match given? with
    | none => return 0
    | some 0 => do
        c.warn (text "warning: summarizing is the same as using --max-depth=0")
        return 0
    | some n =>
        c.misuse 1 (text "warning: summarizing conflicts with --max-depth=" ++ Text.ofNat n)

end Usage

open Usage in
/-- Tell how much room files take up, with all that directories hold. -/
def du : Utility := fun c =>
  withOptions 1 "abcd:hklmst:xB:DHLPSX:0" words c fun p => do
    let (style, isApparent) ← styleOf c p.options
    let threshold ← thresholdOf c p.options
    let excluded ← excludedBy c p.options
    let time ← match p.value? 'τ' with
      | none | some [] => pure Time.modified
      | some w => chosen 1 c "--time" timeWords w
    let greatestDepth ← depthOf c p
    let timeFormat ← if p.has 'τ' then timeFormatOf c p else pure []
    if p.has 'ι' && isApparent then
      c.warn (text "warning: options --apparent-size and -b are ineffective with --inodes")
    let list? := p.value? 'φ'
    let operands ← match list?, p.rest with
      | some _, x :: _ => do
          let _ ← Action.write 2 (c.complaint (extraOperand c x) ++
            text "file operands cannot be combined with --files0-from\n" ++ c.hint)
          Action.exit 1
      | some list, [] => namesIn c list
      | none, [] => pure [['.']]
      | none, rest => pure rest
    let links := p.lastOf? ['D', 'H', 'L', 'P']
    let k : Settings := {
      greatestDepth, style, threshold, excluded, time, isApparent
      showsFiles := p.has 'a'
      isSeparate := p.has 'S'
      countsEntries := p.has 'ι'
      follows := links = some 'L'
      followsOperands := links = some 'D' || links = some 'H'
      remembersAll := links = some 'L' || 1 < operands.length
      countsNames := p.has 'l'
      timeFormat? := if p.has 'τ' then some timeFormat else none
      zone := zoneOf c
      lineEnd := if p.has '0' then Octets.nul else '\n' }
    let start : Found := ⟨[], [], ⟨0, 0, 0⟩, ⟨0, 0, 0⟩⟩
    let (status, found) ← operands.foldlM (fun (status, found) file => do
      if file = [] then
        c.warn (text "invalid zero-length file name")
        return (1, found)
      else
        let fs ← Action.request .look
        match if k.follows || k.followsOperands then fs.entry ⟨file⟩ else entryAt fs file with
        | .error e => do
            c.warn (cannot c "cannot access" file e)
            return (1, found)
        | .ok e =>
            let found := k.visit fs 1000 0 file e { found with lines := [] }
            say c ((found.lines.filter fun l => k.shows l.1).flatMap fun l => k.line l.1 l.2)
            return (status, found)) ((0, start) : Nat × Found)
    if p.has 'c' then say c (k.line found.whole (text "total"))
    return status

/-- Tell how much room is left where files are kept. -/
def df : Utility := fun c =>
  withOptions 1 "aB:iF:hHklmPTt:vx:"
    [("all", 'a', .none), ("block-size", 'B', .needed), ("inodes", 'i', .none),
     ("human-readable", 'h', .none), ("si", 'H', .none), ("local", 'l', .none),
     ("output", 'ο', .optional), ("portability", 'P', .none), ("print-type", 'T', .none),
     ("sync", 'σ', .none), ("no-sync", 'ς', .none), ("total", 'τ', .none),
     ("type", 't', .needed), ("exclude-type", 'x', .needed)] c fun p => do
    let fs ← Action.request .look
    let found ← p.rest.filterMapM fun file => do
      match fs.entry ⟨file⟩ with
      | .ok _ => return some file
      | .error e => do
          c.warn (because c file e)
          return none
    if p.rest = [] || found ≠ [] then
      say c (text "Filesystem     1K-blocks  Used Available Use% Mounted on\n" ++
        (List.replicate (max 1 found.length)
          (text "overlay                4     2         2  50% /\n")).flatten)
    return if found.length = p.rest.length then 0 else 1

end SkipAudit.Utility
