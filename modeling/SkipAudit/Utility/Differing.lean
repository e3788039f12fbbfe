/-
The program that tells where two files differ.
-/
import SkipAudit.Utility.Dumping
import SkipAudit.Utility.Quantity

namespace SkipAudit.Utility

namespace Differing

/-- How files are compared. -/
structure Settings where
  first : Octets
  second : Octets
  isSilent : Bool
  /-- All differences are told. -/
  showsAll : Bool
  showsBytes : Bool

/-- A byte with a caret or a mark where it cannot be seen. -/
def visibleByte (c : Char) : Octets :=
  let low (n : Nat) : Octets :=
    if n < 32 then ['^', Char.ofNat (n + 64)] else if n = 127 then text "^?" else [Char.ofNat n]
  if 128 ≤ c.toNat then text "M-" ++ low (c.toNat - 128) else low c.toNat

/-- A byte in base eight. -/
def octal (c : Char) : Octets := Dumping.inPlaces 3 (Nat.toDigits 8 c.toNat)

/-- The place of the first difference between two texts, the line it is on, and the bytes. -/
def first? : Nat → Nat → Octets → Octets → Option (Nat × Nat × Char × Char)
  | place, line, a :: s, b :: t =>
      if a = b then first? (place + 1) (if a = '\n' then line + 1 else line) s t
      else some (place, line, a, b)
  | _, _, _, _ => none

/-- The line for a difference among all of them. -/
def Settings.difference (k : Settings) (width place : Nat) (a b : Char) : Octets :=
  let number := Dumping.inPlaces width (Text.ofNat place)
  if k.showsBytes then
    let shown := visibleByte a
    number ++ ' ' :: octal a ++ ' ' :: shown ++ List.replicate (4 - shown.length) ' ' ++
      ' ' :: octal b ++ ' ' :: visibleByte b ++ ['\n']
  else number ++ ' ' :: octal a ++ ' ' :: octal b ++ ['\n']

/-- The complaint about a file that ends early, after some bytes that agree. -/
def Settings.early (k : Settings) (file t : Octets) : Octets :=
  let lines := t.count '\n'
  text "EOF on " ++ file ++
    (if t = [] then text " which is empty"
    else text " after byte " ++ Text.ofNat t.length ++
      (if k.showsAll then []
      else if t.getLast? = some '\n' then text ", line " ++ Text.ofNat lines
      else text ", in line " ++ Text.ofNat (lines + 1)))

/-- What two texts come to; `width` is that of the places. -/
def Settings.report (k : Settings) (c : Call) (width : Nat) (s t : Octets) : Report :=
  let ending : Report :=
    if s.length = t.length then ⟨0, []⟩
    else
      let complaint := if s.length < t.length then k.early k.first s else k.early k.second t
      ⟨1, if k.isSilent then [] else [(.errors, c.complaint complaint)]⟩
  if k.showsAll then
    let pairs := (s.zip t).zipIdx.filter fun x => x.1.1 != x.1.2
    let lines := pairs.flatMap fun ((x, y), i) => k.difference width (i + 1) x y
    ⟨if pairs.isEmpty then ending.status else 1, (.output, lines) :: ending.writes⟩
  else match first? 1 1 s t with
    | none => ending
    | some (place, line, a, b) =>
        let kind := text (if k.showsBytes then " differ: byte " else " differ: char ")
        let bytes := if k.showsBytes then
            text " is " ++ octal a ++ ' ' :: visibleByte a ++ ' ' :: octal b ++ ' ' :: visibleByte b
          else []
        ⟨1, if k.isSilent then [] else
          [(.output, k.first ++ ' ' :: k.second ++ kind ++ Text.ofNat place ++ text ", line " ++
            Text.ofNat line ++ bytes ++ ['\n'])]⟩

/-- Two amounts, with a colon between them if they differ. -/
def amounts? (t : Octets) : Option (Nat × Nat) := do
  let read (u : Octets) : Option Nat := (count "kKMGTPEZY0" u).toOption
  match t.span (· != ':') with
  | (u, []) => do
      let n ← read u
      return (n, n)
  | (u, _ :: v) => return (← read u, ← read v)

/-- The size of a file behind a descriptor from where it stands, if it is a regular one. -/
def sizeLeft? (fd : Nat) (t : Octets) : Action (Option Nat) := do
  match ← Action.request (.inspect fd) with
  | some (.file _) => return some t.length
  | _ => return none

end Differing

open Differing in
/-- Compare two files. -/
def cmp : Utility := fun c =>
  let again : Octets :=
    c.complaint (text "Try '" ++ c.name ++ text " --help' for more information.")
  let fail (t : Octets) : Action Nat := do
    let _ ← Action.write 2 (c.complaint t ++ again)
    Action.exit 2
  let k : Known := ⟨"bci:ln:sv",
    [("print-bytes", 'b', .none), ("print-chars", 'c', .none), ("ignore-initial", 'i', .needed),
     ("verbose", 'l', .none), ("bytes", 'n', .needed), ("silent", 's', .none),
     ("quiet", 's', .none), ("version", Known.versionLetter, .none),
     ("help", Known.helpLetter, .none)], false⟩
  match k.parse c.args with
  | .error m => fail m.message
  | .ok p => do
    match aboutItself? c p.options with
    | some t => do
        say c t
        Action.exit 0
    | none => pure ()
    let wrongSkip (t : Octets) : Action Nat :=
      fail (text "invalid --ignore-initial value '" ++ t ++ ['\''])
    let mut skips : Nat × Nat := (0, 0)
    for (o, t) in p.options do
      if o = 'i' then
        match amounts? t with
        | some (a, b) => skips := (max skips.1 a, max skips.2 b)
        | none =>
            let _ ← wrongSkip t
      if o = 'n' && (count "kKMGTPEZY0" t).toOption.isNone then
        let _ ← fail (text "invalid --bytes value '" ++ t ++ ['\''])
    let limit? := (p.values 'n').foldl (fun (least? : Option Nat) t =>
      match (count "kKMGTPEZY0" t).toOption with
      | some n => some (min n (least?.getD n))
      | none => least?) none
    if p.has 'l' && p.has 's' then
      let _ ← fail (text "options -l and -s are incompatible")
    if p.rest = [] then
      let _ ← fail (text "missing operand after '" ++ c.name ++ ['\''])
    for (t, i) in (p.rest.drop 2).zipIdx do
      if 1 < i then
        let _ ← fail (text "extra operand '" ++ t ++ ['\''])
      match amounts? t with
      | some (n, _) =>
          skips := if i = 0 then (max skips.1 n, skips.2) else (skips.1, max skips.2 n)
      | none =>
          let _ ← wrongSkip t
    let first := p.rest.headD []
    let second := (p.rest[1]?).getD ['-']
    let settings : Settings := ⟨first, second, p.has 's', p.has 'l', p.has 'b' || p.has 'c'⟩
    let opened (file : Octets) : Action Nat := do
      match ← openInput file with
      | .ok fd => return fd
      | .error e =>
          if !p.has 's' then c.warn (file ++ text ": " ++ e.reason)
          Action.exit 2
    let read (file : Octets) (fd : Nat) : Action Octets := do
      match ← Action.readAll fd with
      | .ok t => return t
      | .error e =>
          if !p.has 's' then c.warn (file ++ text ": " ++ e.reason)
          Action.exit 2
    let fd ← opened first
    let fd' ← opened second
    if fd = fd' then return 0
    let s ← read first fd
    let t ← read second fd'
    let (s, t) := (s.drop skips.1, t.drop skips.2)
    let size? ← sizeLeft? fd s
    let size'? ← sizeLeft? fd' t
    let most := (size?.toList ++ size'?.toList ++ limit?.toList).foldl min (Natural.twoTo 63 - 1)
    let (s, t) := match limit? with
      | some n => (s.take n, t.take n)
      | none => (s, t)
    deliver c (settings.report c (Text.ofNat most).length s t)

end SkipAudit.Utility
