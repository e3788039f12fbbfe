/-
The program that sorts lines, merges sorted ones, and says whether lines are sorted.
-/
import SkipAudit.Utility.LineSource
import SkipAudit.Utility.Sorting.Key

namespace SkipAudit.Utility

/-- How lines are sorted. -/
structure Sorting where
  keys : List Key
  separator? : Option Char
  /-- Lines that are equal by their keys are put into the opposite order of their bytes. -/
  isReverse : Bool
  isUnique : Bool
  isStable : Bool

namespace Sorting

/-- A line with the parts by which it is compared. -/
structure Line where
  bytes : Octets
  parts : List Octets

/-- A line with the parts that the keys mean. -/
def line (s : Sorting) (t : Octets) : Line := ⟨t, s.keys.map fun k => k.of s.separator? t⟩

/-- Compare parts by one key after the other. -/
def compareParts : List Key → List Octets → List Octets → Ordering
  | k :: ks, a :: as, b :: bs => (k.comparison.of a b).then (compareParts ks as bs)
  | _, _, _ => .eq

/-- Compare lines by their keys. -/
def byKeys (s : Sorting) (a b : Line) : Ordering := compareParts s.keys a.parts b.parts

/-- Compare lines. -/
def compare (s : Sorting) (a b : Line) : Ordering :=
  match s.byKeys a b with
  | .eq =>
      if s.isStable || (s.isUnique && s.keys ≠ []) then .eq
      else
        let o := Comparison.compareText a.bytes b.bytes
        if s.isReverse then o.swap else o
  | o => o

/-- Lines that count as the same. -/
def areSame (s : Sorting) (a b : Line) : Bool :=
  if s.keys = [] then a.bytes == b.bytes else s.byKeys a b == .eq

/-- Lines without those that count as the same as the one in front. -/
def withoutRepeats (s : Sorting) : Option Line → List Line → List Line
  | _, [] => []
  | before?, l :: ls =>
      if before?.any (s.areSame · l) then withoutRepeats s before? ls
      else l :: withoutRepeats s (some l) ls

/-- Merge sorted lines; of equal ones those of the first list come first. -/
def merged (s : Sorting) : List (List Line) → List Line
  | [] => []
  | ls :: rest => ls.merge (merged s rest) fun a b => s.compare a b != .gt

/-- The first line that is out of order, with its number. -/
def firstDisorder? (s : Sorting) : Nat → List Line → Option (Nat × Line)
  | n, a :: b :: ls =>
      let o := s.compare a b
      if o = .gt || (s.isUnique && s.areSame a b) then some (n + 1, b)
      else firstDisorder? s (n + 1) (b :: ls)
  | _, _ => none

/-! ## Explanations -/

/-- How many columns a text takes up where tabs are shown as one character. -/
def shownWidth (e : Encoding) (t : Octets) : Nat := e.columns t + t.count '\t'

/-- A mark under a part of a line. -/
def underlined (e : Encoding) (t : Octets) (first last : Nat) : Octets :=
  let offset := shownWidth e (t.take first)
  let width := shownWidth e ((t.take last).drop first)
  List.replicate offset ' ' ++
    (if width = 0 then text "^ no match for key\n" else List.replicate width '_' ++ ['\n'])

/-- A line with marks under the parts by which it was compared. -/
def explained (s : Sorting) (e : Encoding) (l : Line) : Octets :=
  let marks := s.keys.map fun k =>
    let (first, last) := k.looksAt s.separator? l.bytes
    underlined e l.bytes first last
  let whole := if s.keys = [] || !(s.isUnique || s.isStable) then
      [underlined e l.bytes 0 l.bytes.length]
    else []
  (l.bytes.map fun c => if c = '\t' then '>' else c) ++ ['\n'] ++ (marks ++ whole).flatten

/-! ## Options -/

/-- The separator that an option gives. -/
def separatorOf (c : Call) (t : Octets) : Except Octets Char :=
  match t with
  | [x] => .ok x
  | ['\\', '0'] => .ok Octets.nul
  | [] => .error (text "empty tab")
  | t => .error (text "multi-character tab " ++ c.quote t)

/-- The words for what is compared. -/
def kindWords : List (String × Char) :=
  [("general-numeric", 'g'), ("human-numeric", 'h'), ("month", 'M'), ("numeric", 'n'),
   ("random", 'R'), ("version", 'V')]

/-- The words for how it is said that lines are not sorted. -/
def checkWords : List (String × Char) := [("quiet", 'C'), ("silent", 'C'), ("diagnose-first", 'c')]

/-- Complain of options that cannot stand together. -/
def refuse {α : Type} (c : Call) (letters : Octets) : Action α :=
  c.die 2 (text "options '-" ++ letters ++ text "' are incompatible")

/-- Options with words turned into letters. -/
def lettered (c : Call) (o : Char × Octets) : Action (Char × Octets) := do
  match o with
  | ('σ', w) => return (← chosen 2 c "--sort" kindWords w, [])
  | ('χ', []) => return ('c', [])
  | ('χ', w) => return (← chosen 2 c "--check" checkWords w, [])
  | ('ρ', t) => do
      match count "" t with
      | .ok 0 => c.die 2 (text "number in parallel must be nonzero")
      | .ok _ => return ('ρ', t)
      | .error _ => c.die 2 (text "invalid --parallel argument '" ++ t ++ ['\''])
  | ('S', t) => do
      let body := if t.getLast? = some '%' then t.dropLast else t
      if (count "bEgGkKmMPtTYZ" body).toOption.isSome then return ('S', t)
      else c.die 2 (text "invalid -S argument '" ++ t ++ ['\''])
  | o => return o

/-- Read all inputs; each is cut into its lines. -/
def readAll (c : Call) (lineEnd : Char) (files : List Octets) : Action (List (List Octets)) := do
  let fs ← Action.request .look
  for file in files do
    if file ≠ ['-'] then
      match fs.entry ⟨file⟩ with
      | .ok _ => pure ()
      | .error e => c.die 2 (text "cannot read: " ++ c.shown file ++ text ": " ++ e.reason)
  files.mapM fun file => do
    match ← readInput file with
    | .ok t => return (linesEnding lineEnd t).map (Text.dropFinal lineEnd)
    | .error e =>
        c.die 2 (text (if e = .isDirectory then "read failed: " else "cannot read: ") ++
          c.shown file ++ text ": " ++ e.reason)

/-- The files that a list names. -/
def listedFiles (c : Call) (list : Octets) : Action (List Octets) := do
  match ← readInput list with
  | .error e => c.die 2 (text "cannot open " ++ c.quoted list ++ text ": " ++ e.reason)
  | .ok t =>
      let names := Text.cutAt Octets.nul t
      let names := if names.getLast? = some [] then names.dropLast else names
      match names with
      | [] => c.die 2 (text "no input from " ++ c.quoted list)
      | names =>
          match names.findIdx? (· == []) with
          | some i =>
              c.die 2 (c.shown list ++ ':' :: Text.ofNat (i + 1) ++
                text ": invalid zero-length file name")
          | none => return names

/-- The files that are sorted. -/
def filesOf (c : Call) (p : Parsed) : Action (List Octets) := do
  match p.value? 'φ', p.rest with
  | some _, x :: _ => do
      let _ ← Action.write 2 (c.complaint (text "extra operand " ++ c.quoted x) ++
        text "file operands cannot be combined with --files0-from\n" ++ c.hint)
      Action.exit 2
  | some list, [] => listedFiles c list
  | none, rest => return inputsOr rest

/-- The settings that options ask for. -/
def ofOptions (c : Call) (p : Parsed) : Action Sorting := do
  let general := Comparison.ofLetters (p.options.map (·.1))
  let keys ← (p.values 'k').mapM fun t => match Key.read c general t with
    | .ok k => pure k
    | .error e => c.die 2 e
  let separators ← (p.values 't').mapM fun t => match separatorOf c t with
    | .ok x => pure x
    | .error e => c.die 2 e
  if 1 < separators.eraseDups.length then c.die 2 (text "incompatible tabs")
  let keys := if keys = [] && !general.isUsual then [Key.whole general] else keys
  for k in keys do
    match k.comparison.conflict? with
    | some ls => refuse c ls
    | none => pure ()
  return ⟨keys, separators.getLast?, general.isReverse, p.has 'u', p.has 's'⟩

end Sorting

open Sorting in
/-- Sort lines. -/
def sort : Utility := fun c =>
  withOptions 2 "bcCdfghik:mMno:rRsS:t:T:uVy:z"
    [("ignore-leading-blanks", 'b', .none), ("check", 'χ', .optional),
     ("compress-program", 'ψ', .needed), ("debug", 'δ', .none), ("dictionary-order", 'd', .none),
     ("ignore-case", 'f', .none), ("files0-from", 'φ', .needed),
     ("general-numeric-sort", 'g', .none), ("ignore-nonprinting", 'i', .none),
     ("key", 'k', .needed), ("merge", 'm', .none), ("month-sort", 'M', .none),
     ("numeric-sort", 'n', .none), ("human-numeric-sort", 'h', .none), ("version-sort", 'V', .none),
     ("random-sort", 'R', .none), ("random-source", 'ω', .needed), ("sort", 'σ', .needed),
     ("output", 'o', .needed), ("reverse", 'r', .none), ("stable", 's', .none),
     ("batch-size", 'β', .needed), ("buffer-size", 'S', .needed), ("field-separator", 't', .needed),
     ("temporary-directory", 'T', .needed), ("unique", 'u', .none), ("zero-terminated", 'z', .none),
     ("parallel", 'ρ', .needed)] c fun p => do
    let p := { p with options := ← p.options.mapM (lettered c) }
    let targets := (p.values 'o').eraseDups
    if 1 < targets.length then c.die 2 (text "multiple output files specified")
    if p.has 'c' && p.has 'C' then refuse c ['c', 'C']
    let s ← ofOptions c p
    let files ← filesOf c p
    let check? := p.lastOf? ['c', 'C']
    match check? with
    | some x => do
        if targets ≠ [] then refuse c [x, 'o']
        match files[1]? with
        | some extra =>
            c.misuse 2 (text "extra operand " ++ c.quoted extra ++
              text " not allowed with -" ++ [x])
        | none => pure ()
    | none => pure ()
    if p.has 'δ' then c.warn (text "text ordering performed using simple byte comparison")
    let lineEnd := if p.has 'z' then Octets.nul else '\n'
    let texts ← readAll c lineEnd files
    let lists := texts.map fun ls => ls.map s.line
    match check? with
    | some x =>
        match s.firstDisorder? 1 lists.flatten with
        | none => return 0
        | some (n, l) => do
            if x = 'c' then
              c.warn (c.shown (files.headD ['-']) ++ ':' :: Text.ofNat n ++ text ": disorder: " ++
                l.bytes)
            return 1
    | none =>
        let sorted := if p.has 'm' then s.merged lists
          else lists.flatten.mergeSort fun a b => s.compare a b != .gt
        let kept := if s.isUnique then s.withoutRepeats none sorted else sorted
        let out := kept.flatMap fun l =>
          if p.has 'δ' then s.explained c.encoding l else l.bytes ++ [lineEnd]
        let put (fd : Nat) (name : Octets) : Action Nat := do
          match ← Action.write fd out with
          | .ok () => return 0
          | .error e => do
              let what := if out.length ≤ Pending.bound then "fflush failed: " else "write failed: "
              c.warn (text what ++ name ++ text ": " ++ e.reason)
              c.die 2 (text "write error")
        match targets with
        | [] => put 1 (c.quoted (text "standard output"))
        | file :: _ =>
            match ← Action.openFile file .writing with
            | .error e => c.die 2 (text "open failed: " ++ c.shown file ++ text ": " ++ e.reason)
            | .ok fd => put fd (c.shown file)

end SkipAudit.Utility
