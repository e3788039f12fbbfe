/-
The program that splits a text into files: pieces of some size, of some number of lines, or so
many pieces as are wanted.
-/
import SkipAudit.Utility.Deeds
import SkipAudit.Utility.Parts
import SkipAudit.Utility.Starting

namespace SkipAudit.Utility

namespace Splitting

/-! ## Pieces -/

/-- How the pieces are made. -/
inductive Method where
  | lines (n : Nat)
  | bytes (n : Nat)
  /-- As many whole lines as fit into so many bytes. -/
  | lineBytes (n : Nat)
  /-- So many pieces, of which one may be chosen. -/
  | chunks (n : Nat) (chosen? : Option Nat)
  /-- The same, but lines stay whole. -/
  | lineChunks (n : Nat) (chosen? : Option Nat)
  /-- One line for each in turn. -/
  | turns (n : Nat) (chosen? : Option Nat)

/-- Groups of so many elements, the last one with what is left; the number bounds how many. -/
def groups {α : Type} (size : Nat) : Nat → List α → List (List α)
  | 0, _ | _, [] => []
  | fuel + 1, x :: xs =>
      (x :: xs).take size :: groups size fuel ((x :: xs).drop size)

/-- Pieces of whole lines up to some size; a line that is longer is cut.  The number bounds how
many there are. -/
def fitted (lineEnd : Char) (size : Nat) : Nat → Octets → List Octets
  | 0, _ | _, [] => []
  | fuel + 1, c :: t =>
      let window := (c :: t).take size
      if window.length < size then [window]
      else
        let whole := (window.reverse.dropWhile (· != lineEnd)).reverse
        let piece := if whole = [] then window else whole
        piece :: fitted lineEnd size fuel ((c :: t).drop piece.length)

/-- Where pieces of the same size end; what is left over belongs to the last. -/
def bounds (size n : Nat) : List Nat :=
  let size := max size n
  (List.range n).map fun i => if i + 1 = n then size else (i + 1) * (size / n)

/-- A text cut at some places. -/
def cutAtBounds (start : Nat) : List Nat → Octets → List Octets
  | [], _ => []
  | b :: bs, t => t.take (b - start) :: cutAtBounds b bs (t.drop (b - start))

/-- The lines that begin in front of a place, and the others with where they begin. -/
def linesUpTo (bound place : Nat) : List Octets → List Octets × Nat × List Octets
  | [] => ([], place, [])
  | l :: ls =>
      if place < bound then
        let (taken, place, rest) := linesUpTo bound (place + l.length) ls
        (l :: taken, place, rest)
      else ([], place, l :: ls)

/-- Lines put together by where they begin. -/
def linesAtBounds (place : Nat) : List Nat → List Octets → List Octets
  | [], _ => []
  | b :: bs, ls =>
      let (taken, place, rest) := linesUpTo b place ls
      taken.flatten :: linesAtBounds place bs rest

/-- The lines whose turn has some number. -/
def turn (n i : Nat) (ls : List Octets) : Octets :=
  (ls.zipIdx.filterMap fun (l, j) => if j % n = i then some l else none).flatten

/-- The pieces of a text. -/
def pieces (m : Method) (lineEnd : Char) (t : Octets) : List Octets :=
  let ls := linesEnding lineEnd t
  match m with
  | .lines n => (groups n ls.length ls).map List.flatten
  | .bytes n => groups n t.length t
  | .lineBytes n => fitted lineEnd n t.length t
  | .chunks n _ => cutAtBounds 0 (bounds t.length n) t
  | .lineChunks n _ => linesAtBounds 0 (bounds t.length n) ls
  | .turns n _ => (List.range n).map fun i => turn n i ls

/-- The piece that is chosen instead of all. -/
def Method.chosen? : Method → Option Nat
  | .chunks _ k? | .lineChunks _ k? | .turns _ k? => k?
  | _ => none

/-- How many pieces are wanted. -/
def Method.count? : Method → Option Nat
  | .chunks n _ | .lineChunks n _ | .turns n _ => some n
  | _ => none

/-- The size of the text has to be known before. -/
def Method.needsSize : Method → Bool
  | .chunks .. | .lineChunks .. => true
  | _ => false

/-! ## Names -/

/-- How files are named. -/
structure Naming where
  stem : Octets
  alphabet : List Char
  size : Nat
  /-- Names become longer when there are too many of them. -/
  grows : Bool
  start : Nat
  suffix : Octets

/-- A number in the digits of an alphabet, in so many places. -/
def inAlphabet (alphabet : List Char) : Nat → Nat → Octets
  | 0, _ => []
  | k + 1, n =>
      inAlphabet alphabet k (n / alphabet.length) ++ [(alphabet[n % alphabet.length]?).getD 'a']

/-- The name with a number; `front` are the last characters of the alphabet that were put in front
when names grew.  The number bounds how often. -/
def nameFrom (k : Naming) : Nat → Octets → Nat → Nat → Octets
  | 0, front, size, n => k.stem ++ front ++ inAlphabet k.alphabet size n ++ k.suffix
  | fuel + 1, front, size, n =>
      let base := k.alphabet.length
      let room := (base - 1) * Nat.pow base (size - 1)
      if k.grows && room ≤ n then
        nameFrom k fuel (front ++ [k.alphabet.getLastD 'z']) (size + 1) (n - room)
      else k.stem ++ front ++ inAlphabet k.alphabet size n ++ k.suffix

/-- The name of the file with a number; none if there are no more names. -/
def Naming.name? (k : Naming) (i : Nat) : Option Octets :=
  let n := k.start + i
  if !k.grows && Nat.pow k.alphabet.length k.size ≤ n then none
  else some (nameFrom k 64 [] k.size n)

/-- How many places a number needs beside the first one. -/
def placesFor (base : Nat) : Nat → Nat → Nat
  | 0, _ => 1
  | fuel + 1, n => if n < base then 1 else placesFor base fuel (n / base) + 1

/-! ## Options -/

/-- The letters of sizes. -/
def pieceUnits : String := "bEGKkMmPTYZ0"

/-- Read a positive number of bytes. -/
def sizeOr (c : Call) (what : String) (t : Octets) : Action Nat :=
  countOr 1 c what pieceUnits 1 (Natural.twoTo 63 - 1) t

/-- Read a positive number of other things. -/
def numberOr (c : Call) (what : String) (t : Octets) : Action Nat :=
  countOr 1 c what "" 1 greatestCount t

/-- Read how many pieces are wanted, and which one. -/
def chunksOf (c : Call) (t : Octets) : Action Method := do
  let (make, u) : (Nat → Option Nat → Method) × Octets := match t.dropWhile Signed64.isSpace with
    | 'r' :: '/' :: u => (.turns, u)
    | 'l' :: '/' :: u => (.lineChunks, u)
    | u => (.chunks, u)
  match u.span (· != '/') with
  | (n, []) => do return make (← numberOr c "invalid number of chunks" n) none
  | (k, _ :: n) => do
      let all ← numberOr c "invalid number of chunks" n
      if k = [] then return make all none
      else return make all (some ((← countOr 1 c "invalid chunk number" "" 1 all k) - 1))

/-- The methods that options ask for: digits that stand next to each other are one number. -/
def methodsOf (c : Call) : List (Char × Octets) → Option Octets → Action (List Method)
  | [], none => return []
  | [], some ds => return [.lines (← numberOr c "invalid number of lines" ds)]
  | (o, t) :: rest, digits? => do
      if o.isDigit then methodsOf c rest (some (digits?.getD [] ++ [o]))
      else
        let method? ← match o with
          | 'b' => do pure (some (.bytes (← sizeOr c "invalid number of bytes" t)))
          | 'l' => do pure (some (Method.lines (← numberOr c "invalid number of lines" t)))
          | 'C' => do pure (some (.lineBytes (← sizeOr c "invalid number of lines" t)))
          | 'n' => some <$> chunksOf c t
          | _ => pure none
        let more ← methodsOf c rest digits?
        return method?.toList ++ more

/-- The character that ends lines. -/
def lineEndOf (c : Call) (ts : List Octets) : Action Char := do
  let found ← ts.mapM fun t => match t with
    | [] => c.die 1 (text "empty record separator")
    | [x] => pure x
    | ['\\', '0'] => pure Octets.nul
    | _ => c.die 1 (text "multi-character separator " ++ c.quote t)
  match found with
  | [] => return '\n'
  | x :: xs =>
      if xs.any (· ≠ x) then c.die 1 (text "multiple separator characters specified")
      else return x

/-- How files are named, as options say it. -/
def namingOf (c : Call) (p : Parsed) (m : Method) (stem : Octets) : Action Naming := do
  let size ← match p.value? 'a' with
    | none => pure 0
    | some t =>
        match count "" t with
        | .ok n => pure n
        | .error e => c.die 1 (text "invalid suffix length: " ++ c.quote t ++ countReason e)
  let letter := (p.lastOf? ['d', 'x']).getD 'a'
  let alphabet := match letter with
    | 'd' => "0123456789".toList
    | 'x' => "0123456789abcdef".toList
    | _ => "abcdefghijklmnopqrstuvwxyz".toList
  let base := alphabet.length
  for (o, t) in p.options.filter fun o => o.1 = 'd' || o.1 = 'x' do
    let allowed := if o = 'd' then "0123456789".toList else "0123456789abcdef".toList
    if !t.all allowed.contains then
      c.misuse 1 (c.quote t ++ text (if o = 'd' then ": invalid start value for numerical suffix"
        else ": invalid start value for hexadecimal suffix"))
  let start? := (((p.options.filter fun o => (o.1 = 'd' || o.1 = 'x') && o.2 ≠ []).getLast?).map
    (·.2)).map fun t =>
      let u := t.dropWhile (· == '0')
      if u = [] then ['0'] else u
  let start := (start?.getD ['0']).foldl (fun n x =>
    n * base + ((alphabet.idxOf? x).getD 0)) 0
  let needed := match m.count? with
    | none => 0
    | some n =>
        let shift := match start?.bind Text.toNat? with
          | some s => if s < n then s else 0
          | none => 0
        placesFor base 64 (n - 1 + shift)
  if size ≠ 0 && size < needed then
    c.die 1 (text "the suffix length needs to be at least " ++ Text.ofNat needed)
  let suffix := (p.value? 'α').getD []
  let size' := if size ≠ 0 then size else max 2 needed
  if size' < (start?.getD []).length then
    c.misuse 1 (text "numerical suffix start value is too large for the suffix length")
  return ⟨stem, alphabet, size', size = 0 && needed = 0 && start?.isNone, start, suffix⟩

/-! ## Writing -/

/-- Where pieces go. -/
structure Target where
  naming : Naming
  filter? : Option Octets
  isVerbose : Bool
  /-- The number of the file that is split. -/
  source? : Option Nat

/-- Write a piece. -/
def putPiece (c : Call) (k : Target) (i : Nat) (t : Octets) : Action Unit := do
  let name ← match k.naming.name? i with
    | some n => pure n
    | none => c.die 1 (text "output file suffixes exhausted")
  match k.filter? with
  | some command =>
      if k.isVerbose then say c (text "executing with FILE=" ++ c.shown name ++ ['\n'])
      match ← feedShell c command (withVariable c.environment (text "FILE=" ++ name)) t with
      | .exited 0 => return
      | .exited n =>
          c.die n (text "with FILE=" ++ c.shown name ++ text ", exit " ++ Text.ofNat n ++
            text " from command: " ++ command)
      | .killed n =>
          if n = Signal.ofPipe then return
          else
            c.die (n + 128) (text "with FILE=" ++ c.shown name ++ text ", signal " ++
              ((Signal.ofNumber? n).map (·.name)).getD (Text.ofNat n) ++ text " from command: " ++
              command)
      | .outOfTime => return
  | none =>
      if k.isVerbose then say c (text "creating file " ++ c.quoted name ++ ['\n'])
      let fs ← Action.request .look
      match fs.entry ⟨name⟩, k.source? with
      | .ok (.file d), some n =>
          if d.identity = n then
            c.die 1 (c.quoted name ++ text " would overwrite input; aborting")
      | _, _ => pure ()
      match ← Action.openFile name .writing with
      | .error e => c.die 1 (because c name e)
      | .ok fd =>
          match ← Action.write fd t with
          | .ok () => Action.request (.close fd)
          | .error e => c.die 1 (because c name e)

end Splitting

open Splitting in
/-- Split a text into files. -/
def split : Utility := fun c =>
  withOptions 1 "0123456789C:a:b:del:n:t:ux"
    [("bytes", 'b', .needed), ("lines", 'l', .needed), ("line-bytes", 'C', .needed),
     ("number", 'n', .needed), ("elide-empty-files", 'e', .none), ("unbuffered", 'u', .none),
     ("suffix-length", 'a', .needed), ("additional-suffix", 'α', .needed),
     ("numeric-suffixes", 'd', .optional), ("hex-suffixes", 'x', .optional),
     ("filter", 'φ', .needed), ("verbose", 'β', .none), ("separator", 't', .needed)] c
    fun p => do
    let methods ← methodsOf c p.options none
    let m ← match methods with
      | [] => pure (.lines 1000)
      | [m] => pure m
      | _ => c.misuse 1 (text "cannot split in more than one way")
    for t in p.values 'α' do
      if t.contains '/' then
        c.misuse 1 (text "invalid suffix " ++ c.quote t ++ text ", contains directory separator")
    let lineEnd ← lineEndOf c (p.values 't')
    if m.chosen?.isSome && p.has 'φ' then
      c.misuse 1 (text "--filter does not process a chunk extracted to stdout")
    match p.rest[2]? with
    | some x => c.misuse 1 (extraOperand c x)
    | none => pure ()
    let naming ← namingOf c p m ((p.rest[1]?).getD ['x'])
    let file := p.rest.headD ['-']
    let fd ← match ← openInput file with
      | .ok fd => pure fd
      | .error e =>
          c.die 1 (text "cannot open " ++ c.quoted file ++ text " for reading: " ++ e.reason)
    let source? ← identityOf fd
    let unknown := c.shown file ++ text ": cannot determine file size"
    if m.needsSize && (← Action.request (.inspect fd)) == some .pipe then c.die 1 unknown
    match ← Action.readAll fd with
    | .error e =>
        c.die 1 (if m.needsSize then unknown ++ text ": " ++ e.reason else because c file e)
    | .ok t =>
        let all := pieces m lineEnd t
        match m.chosen? with
        | some i =>
            say c ((all[i]?).getD [])
            return 0
        | none =>
            let all := if p.has 'e' then all.filter (· ≠ []) else all
            if p.has 'φ' then
              let _ ← Action.request (.handle Signal.ofPipe .ignored)
            let k : Target := ⟨naming, p.value? 'φ', p.has 'β', source?⟩
            for (t, i) in all.zipIdx do
              putPiece c k i t
            return 0

end SkipAudit.Utility
