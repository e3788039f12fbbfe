/-
The program that copies in blocks, and converts what it copies.
-/
import SkipAudit.Text.Ebcdic
import SkipAudit.Utility.Deeds
import SkipAudit.Utility.Magnitude
import SkipAudit.Utility.Quantity

namespace SkipAudit.Utility

namespace Blocks

/-! ## What is asked for -/

/-- What is done to the bytes, or to the files. -/
inductive Conversion where
  | fromEbcdic
  | toEbcdic
  | toOtherEbcdic
  /-- Lines become records of one length. -/
  | block
  | unblock
  | lower
  | upper
  /-- Pairs of bytes are exchanged. -/
  | swab
  /-- Every block is filled up. -/
  | sync
  | noError
  | noTruncation
  | onlyNew
  | onlyOld
  /-- It makes no difference here. -/
  | other
deriving DecidableEq

/-- The words for these. -/
def conversionWords : List (String × Conversion) :=
  [("ascii", .fromEbcdic), ("ebcdic", .toEbcdic), ("ibm", .toOtherEbcdic), ("block", .block),
   ("unblock", .unblock), ("lcase", .lower), ("ucase", .upper), ("sparse", .other),
   ("swab", .swab), ("noerror", .noError), ("nocreat", .onlyOld), ("excl", .onlyNew),
   ("notrunc", .noTruncation), ("sync", .sync), ("fdatasync", .other), ("fsync", .other)]

/-- How a file is read or written. -/
inductive Flag where
  | append
  | fullBlock
  | countBytes
  | skipBytes
  | seekBytes
  | direct
  | noCache
  | directory
  | other
deriving DecidableEq

/-- The words for these. -/
def flagWords : List (String × Flag) :=
  [("append", .append), ("direct", .direct), ("directory", .directory), ("dsync", .other),
   ("noatime", .other), ("nocache", .noCache), ("noctty", .other), ("nofollow", .other),
   ("nonblock", .other), ("sync", .other), ("fullblock", .fullBlock),
   ("count_bytes", .countBytes), ("skip_bytes", .skipBytes), ("seek_bytes", .seekBytes)]

/-- How much is told at the end. -/
inductive Talk where
  | nothing
  | records
  | all
deriving DecidableEq

/-- The words for these. -/
def talkWords : List (String × Talk) :=
  [("none", .nothing), ("noxfer", .records), ("progress", .all)]

/-- The operands, as they were read. -/
structure Settings where
  input? : Option Octets
  output? : Option Octets
  inputSize : Nat
  outputSize : Nat
  /-- The size for both, or zero. -/
  size : Nat
  lineSize : Nat
  skip : Nat
  seek : Nat
  count? : Option Nat
  conversions : List Conversion
  inputFlags : List Flag
  outputFlags : List Flag
  talk : Talk

namespace Settings

/-- Nothing was asked for. -/
def initial : Settings := ⟨none, none, 0, 0, 0, 0, 0, 0, none, [], [], [], .all⟩

/-- A conversion is wanted. -/
def converts (k : Settings) (x : Conversion) : Bool := k.conversions.contains x

/-- Lines become records, or records lines. -/
def shapes (k : Settings) : Bool := k.converts .block || k.converts .unblock

/-- Blocks are written as they are read. -/
def isDirect (k : Settings) : Bool :=
  k.size ≠ 0 && !k.conversions.any fun x =>
    [.fromEbcdic, .toEbcdic, .toOtherEbcdic, .block, .unblock, .lower, .upper, .swab].contains x

/-- The name of the input. -/
def inputName (k : Settings) : Octets := k.input?.getD (text "standard input")

/-- The name of the output. -/
def outputName (k : Settings) : Octets := k.output?.getD (text "standard output")

end Settings

/-! ## Reading operands -/

/-- Letters of units in numbers. -/
def units : String := "bcEGkKMPTwYZ0"

/-- A number with a unit. -/
def factor? (t : Octets) : Except CountFault Nat :=
  match count units t with
  | .error .badUnit =>
      match Text.dropEnding? ['B'] t with
      | some u => if u.getLast? = some 'B' then .error .badUnit else count units u
      | none => .error .badUnit
  | r => r

/-- A number with a unit, or a product of two such numbers, and whether a zero was taken for a
factor where a base may have been meant. -/
def amount? (t : Octets) : Except CountFault Nat × Bool :=
  match t.span (· != 'x') with
  | (u, []) => (factor? u, false)
  | (u, _ :: v) =>
      if v.contains 'x' then (.error .invalid, false)
      else match factor? u, factor? v with
        | .error e, _ | _, .error e => (.error e, false)
        | .ok n, .ok m =>
            if greatestCount < n * m then (.error .tooLarge, false)
            else (.ok (n * m), n * m = 0 && Text.startsWith ['0', 'x'] t)

/-- No count is greater. -/
def most : Nat := Natural.twoTo 63 - 1

/-- Read a number, or end with a complaint. -/
def numberOr (c : Call) (least : Nat) (t : Octets) : Action Nat := do
  let (r, hasZero) := amount? t
  if hasZero then
    c.warn (text "warning: " ++ c.quote (text "0x") ++ text " is a zero multiplier; use " ++
      c.quote (text "00x") ++ text " if that is intended")
  let refuse (reason : Octets) : Action Nat :=
    c.die 1 (text "invalid number: " ++ c.quoted t ++ reason)
  match r with
  | .ok n =>
      if n < least then refuse []
      else if most < n then refuse (countReason .tooLarge)
      else return n
  | .error e => refuse (countReason e)

/-- Read words between commas, or end with a complaint. -/
def wordsOr {α : Type} (c : Call) (table : List (String × α)) (what : String) (t : Octets) :
    Action (List α) :=
  (Text.cutAt ',' t).mapM fun w =>
    match table.find? fun x => text x.1 == w with
    | some x => pure x.2
    | none => c.misuse 1 (text "invalid " ++ text what ++ text ": " ++ c.quote w)

/-- Settings with one more operand. -/
def withOperand (c : Call) (k : Settings) (operand : Octets) : Action Settings := do
  let refuse : Action Settings := c.misuse 1 (text "unrecognized operand " ++ c.quoted operand)
  let (name, value) := operand.span (· != '=')
  match value with
  | [] => refuse
  | _ :: t =>
      let inBytes (flag : Flag) : List Flag := if t.contains 'B' then [flag] else []
      let free (flags : List Flag) (flag : Flag) := flags.filter (· ≠ flag)
      match String.ofList name with
      | "if" => return { k with input? := some t }
      | "of" => return { k with output? := some t }
      | "conv" =>
          let xs ← wordsOr c conversionWords "conversion" t
          return { k with conversions := k.conversions ++ xs }
      | "iflag" =>
          let xs ← wordsOr c flagWords "input flag" t
          return { k with inputFlags := k.inputFlags ++ xs }
      | "oflag" =>
          let xs ← wordsOr c flagWords "output flag" t
          return { k with outputFlags := k.outputFlags ++ xs }
      | "status" =>
          match talkWords.find? fun x => text x.1 == t with
          | some x => return { k with talk := x.2 }
          | none => c.misuse 1 (text "invalid status level: " ++ c.quote t)
      | "ibs" => return { k with inputSize := ← numberOr c 1 t }
      | "obs" => return { k with outputSize := ← numberOr c 1 t }
      | "bs" => return { k with size := ← numberOr c 1 t }
      | "cbs" => return { k with lineSize := ← numberOr c 1 t }
      | "skip" | "iseek" =>
          return { k with
            skip := ← numberOr c 0 t
            inputFlags := free k.inputFlags .skipBytes ++ inBytes .skipBytes }
      | "seek" | "oseek" =>
          return { k with
            seek := ← numberOr c 0 t
            outputFlags := free k.outputFlags .seekBytes ++ inBytes .seekBytes }
      | "count" =>
          return { k with
            count? := some (← numberOr c 0 t)
            inputFlags := free k.inputFlags .countBytes ++ inBytes .countBytes }
      | _ => refuse

/-- The usual size of a block. -/
def usualSize : Nat := 512

/-- Settings with what follows from the operands, or the end with a complaint. -/
def settled (c : Call) (k : Settings) : Action Settings := do
  let or (n : Nat) : Nat := if k.size ≠ 0 then k.size else if n = 0 then usualSize else n
  let implied := k.conversions.flatMap fun
    | .fromEbcdic => [Conversion.unblock]
    | .toEbcdic | .toOtherEbcdic => [Conversion.block]
    | _ => []
  let conversions := (k.conversions ++ implied).filter fun x =>
    k.lineSize ≠ 0 || (x ≠ .block && x ≠ .unblock)
  let k := { k with inputSize := or k.inputSize, outputSize := or k.outputSize, conversions }
  if k.outputFlags.contains .fullBlock then
    c.misuse 1 (text "invalid output flag: " ++ c.quote (text "fullblock"))
  let several (xs : List Conversion) : Bool := 1 < (xs.filter k.converts).length
  if several [.fromEbcdic, .toEbcdic, .toOtherEbcdic] then
    c.die 1 (text "cannot combine any two of \x7bascii,ebcdic,ibm\x7d")
  if several [.block, .unblock] then c.die 1 (text "cannot combine block and unblock")
  if several [.lower, .upper] then c.die 1 (text "cannot combine lcase and ucase")
  if several [.onlyNew, .onlyOld] then c.die 1 (text "cannot combine excl and nocreat")
  if [k.inputFlags, k.outputFlags].any fun fs => fs.contains .direct && fs.contains .noCache then
    c.die 1 (text "cannot combine direct and nocache")
  return k

/-! ## Converting -/

/-- What has to be remembered between blocks. -/
structure Stream where
  /-- A byte that waits for the one it is exchanged with. -/
  waiting? : Option Char
  column : Nat
  /-- Blanks that are written if something follows them. -/
  blanks : Nat
  truncated : Nat
  /-- What is ready to be written, the newest first. -/
  out : Octets

namespace Stream

/-- Nothing was read yet. -/
def initial : Stream := ⟨none, 0, 0, 0, []⟩

/-- With more to be written. -/
def emit (s : Stream) (c : Char) : Stream := { s with out := c :: s.out }

/-- With a row of the same byte. -/
def emitRow (s : Stream) (n : Nat) (c : Char) : Stream :=
  { s with out := List.replicate n c ++ s.out }

end Stream

namespace Settings

/-- A byte in the encoding of the output. -/
def encode (k : Settings) (c : Char) : Char :=
  if k.converts .toEbcdic then Ebcdic.encode c
  else if k.converts .toOtherEbcdic then Ebcdic.encodeThere c
  else c

/-- A byte after all changes that concern it alone. -/
def translate (k : Settings) (c : Char) : Char :=
  let c := if k.converts .fromEbcdic then Ebcdic.decode c else c
  let c := if k.converts .lower then c.toLower else if k.converts .upper then c.toUpper else c
  k.encode c

/-- The next byte of a line that becomes a record. -/
def intoRecord (k : Settings) (s : Stream) (c : Char) : Stream :=
  if c = k.encode '\n' then
    { s.emitRow (k.lineSize - s.column) (k.encode ' ') with column := 0 }
  else
    let s := if s.column < k.lineSize then s.emit c
      else if s.column = k.lineSize then { s with truncated := s.truncated + 1 } else s
    { s with column := s.column + 1 }

/-- The next byte of a record that becomes a line. -/
def fromRecord (k : Settings) (s : Stream) (c : Char) : Stream :=
  let s := if k.lineSize ≤ s.column then
      { s.emit (k.encode '\n') with column := 0, blanks := 0 }
    else s
  let s := { s with column := s.column + 1 }
  if c = k.encode ' ' then { s with blanks := s.blanks + 1 }
  else { (s.emitRow s.blanks (k.encode ' ')).emit c with blanks := 0 }

/-- The next byte, after the changes to it alone. -/
def passByte (k : Settings) (s : Stream) (c : Char) : Stream :=
  if k.converts .block then k.intoRecord s c
  else if k.converts .unblock then k.fromRecord s c
  else s.emit c

/-- The next byte. -/
def take (k : Settings) (s : Stream) (c : Char) : Stream :=
  let c := k.translate c
  if k.converts .swab then
    match s.waiting? with
    | none => { s with waiting? := some c }
    | some d => k.passByte (k.passByte { s with waiting? := none } c) d
  else k.passByte s c

/-- The end of the input. -/
def finish (k : Settings) (s : Stream) : Stream :=
  let s := match s.waiting? with
    | some d => k.passByte { s with waiting? := none } d
    | none => s
  if s.column = 0 then s
  else if k.converts .block then s.emitRow (k.lineSize - s.column) (k.encode ' ')
  else if k.converts .unblock then s.emit (k.encode '\n')
  else s

end Settings

/-! ## Copying -/

/-- How far the copying has come. -/
structure Progress where
  fullIn : Nat
  partialIn : Nat
  fullOut : Nat
  partialOut : Nat
  bytes : Nat
  stream : Stream
  /-- What is ready and does not fill a block, and how long it is. -/
  pending : List Octets
  pendingSize : Nat
  /-- How much was read last. -/
  lastRead : Nat
  /-- It is told if less is read than was asked for. -/
  warns : Bool

/-- Complain, unless nothing is to be told. -/
def tell (c : Call) (k : Settings) (t : Octets) : Action Unit :=
  if k.talk = .nothing then pure () else c.warn t

/-- A number with a word for what is counted. -/
def counted (n : Nat) (one many : String) : Octets :=
  Text.ofNat n ++ text (if n = 1 then one else many)

/-- The time that has passed, and how much was copied in it. -/
def speedText (bytes micros : Nat) : Octets :=
  let fraction := Text.ofNat (micros % perSecond)
  let shown (base : Nat) (n : Nat) : Octets :=
    let (ds, letter?) := (Magnitude.mk base false).parts n
    let unit := match letter? with
      | some l => (if base = 1000 && l = 'K' then ['k'] else [l]) ++
          (if base = 1000 then [] else ['i'])
      | none => []
    ds ++ ' ' :: unit ++ ['B']
  let sizes := (if bytes < 1000 then [] else [shown 1000 bytes]) ++
    (if bytes < 1024 then [] else [shown 1024 bytes])
  counted bytes " byte" " bytes" ++
    (if sizes = [] then []
      else text " (" ++ (List.intersperse (text ", ") sizes).flatten ++ [')']) ++
    text " copied, " ++ Text.ofNat (micros / perSecond) ++ '.' ::
    (List.replicate (6 - fraction.length) '0' ++ fraction) ++ text " s, " ++
    shown 1000 (bytes * perSecond / max 1 micros) ++ text "/s\n"

/-- Tell how much was copied. -/
def conclude (k : Settings) (start : Nat) (s : Progress) : Action Unit := do
  if k.talk ≠ .nothing then
    let records := Text.ofNat s.fullIn ++ '+' :: Text.ofNat s.partialIn ++ text " records in\n" ++
      Text.ofNat s.fullOut ++ '+' :: Text.ofNat s.partialOut ++ text " records out\n" ++
      (if s.stream.truncated = 0 then []
      else counted s.stream.truncated " truncated record\n" " truncated records\n")
    let _ ← Action.write 2 records
    if k.talk = .all then
      let now ← Action.request .clock
      let _ ← Action.write 2 (speedText s.bytes (now - start))

/-- Read up to so many bytes: what comes at once, or all of them. -/
def readBlock (fully : Bool) (size : Nat) : Action (Except FileError Octets) :=
  if fully then
    Action.repeatUntil (.ok []) (fun ((parts, left) : List Octets × Nat) => do
      if left = 0 then return .inr (.ok parts.reverse.flatten)
      match ← Action.read 0 left with
      | .error e => return .inr (.error e)
      | .ok [] => return .inr (.ok parts.reverse.flatten)
      | .ok t => return .inl (t :: parts, left - t.length)) Action.rounds ([], size)
  else Action.read 0 size

/-- Write a block, or end. -/
def writeBlock (c : Call) (k : Settings) (start : Nat) (s : Progress) (t : Octets) :
    Action Progress := do
  match ← Action.write 1 t with
  | .ok () => return { s with bytes := s.bytes + t.length }
  | .error e =>
      c.warn (text "writing to " ++ c.quoted k.outputName ++ text ": " ++ e.reason)
      conclude k start s
      Action.exit 1

/-- Write all blocks that are full. -/
def writeFull (c : Call) (k : Settings) (start : Nat) (s : Progress) : Action Progress := do
  if s.pendingSize < k.outputSize then return s
  else
    let t := s.pending.reverse.flatten
    let full := t.length / k.outputSize
    let s ← (List.range full).foldlM (fun s i => do
      let s ← writeBlock c k start s ((t.drop (i * k.outputSize)).take k.outputSize)
      return { s with fullOut := s.fullOut + 1 }) s
    let rest := t.drop (full * k.outputSize)
    return { s with pending := [rest], pendingSize := rest.length }

/-- What is ready goes to what waits to be written. -/
def gathered (s : Progress) : Progress :=
  { s with
    stream := { s.stream with out := [] }
    pending := s.stream.out.reverse :: s.pending
    pendingSize := s.pendingSize + s.stream.out.length }

/-- Pass on a block that was read. -/
def passBlock (c : Call) (k : Settings) (start : Nat) (s : Progress) (t : Octets) :
    Action Progress := do
  if k.isDirect then
    let s ← writeBlock c k start s t
    return if t.length = k.inputSize then { s with fullOut := s.fullOut + 1 }
      else { s with partialOut := s.partialOut + 1 }
  else
    writeFull c k start (gathered { s with stream := t.foldl k.take s.stream })

/-- A block filled up. -/
def filled (k : Settings) (t : Octets) : Octets :=
  t ++ List.replicate (k.inputSize - t.length) (if k.shapes then ' ' else Octets.nul)

/-- Warn if less was read the time before than was asked for. -/
def warnPartial (c : Call) (k : Settings) (size : Nat) (s : Progress) (n : Nat) :
    Action Progress := do
  let isShort := s.warns && 0 < s.lastRead && s.lastRead < size
  if isShort then
    tell c k (text "warning: partial read (" ++ counted s.lastRead " byte" " bytes" ++
      text "); suggest iflag=fullblock")
  return { s with lastRead := n, warns := s.warns && !isShort }

/-- Copy blocks to the end; `blocks?` and `bytes` are how many, and how much beyond them. -/
def copy (c : Call) (k : Settings) (start : Nat) (blocks? : Option Nat) (bytes : Nat)
    (s : Progress) :
    Action (Nat × Progress) :=
  let fully := k.inputFlags.contains .fullBlock
  Action.repeatUntil (1, s) (fun s => do
    let done := s.fullIn + s.partialIn
    let size? : Option Nat := match blocks? with
      | none => some k.inputSize
      | some n => if done < n then some k.inputSize else if done = n && bytes ≠ 0 then some bytes
          else none
    match size? with
    | none => return .inr (0, s)
    | some size =>
        match ← readBlock fully size with
        | .ok [] => return .inr (0, s)
        | .ok t =>
            let s ← warnPartial c k size s t.length
            let isFull := t.length = k.inputSize
            let s := if isFull then { s with fullIn := s.fullIn + 1 }
              else { s with partialIn := s.partialIn + 1 }
            .inl <$> passBlock c k start s (if k.converts .sync then filled k t else t)
        | .error e =>
            let goesOn := k.converts .noError
            if !goesOn || k.talk ≠ .nothing then
              c.warn (text "error reading " ++ c.quoted k.inputName ++ text ": " ++ e.reason)
            if goesOn then
              conclude k start s
              return .inl s
            else return .inr (1, s)) Action.rounds s

/-- Skip some of the input; the result tells whether there was so much. -/
def skipInput (c : Call) (k : Settings) (start blocks bytes : Nat) (s : Progress) :
    Action Bool := do
  let total := blocks * k.inputSize + bytes
  match ← Action.request (.seek 0 .here 0) with
  | .ok place =>
      match ← Action.request (.seek 0 .finish 0) with
      | .ok size =>
          let opened ← Action.request (.inspect 0)
          let isFile : Bool := match opened with
            | some (.file _) => size ≠ 0
            | _ => false
          let target := if isFile then min (place + total) (max place size) else place + total
          let _ ← Action.request (.seek 0 .start (place + total : Nat))
          return !isFile || target = place + total
      | .error _ => return true
  | .error _ =>
      let fully := k.inputFlags.contains .fullBlock
      Action.repeatUntil false (fun ((blocks, left, skipped) : Nat × Nat × Nat) => do
        if blocks = 0 && left = 0 then return .inr (skipped = total)
        match ← readBlock fully (if blocks = 0 then left else k.inputSize) with
        | .ok [] => return .inr false
        | .ok t =>
            let skipped := skipped + t.length
            return .inl (if blocks = 0 then (0, 0, skipped) else (blocks - 1, left, skipped))
        | .error e =>
            c.warn (text "error reading " ++ c.quoted k.inputName ++ text ": " ++ e.reason)
            conclude k start s
            Action.exit 1) Action.rounds (blocks, bytes, 0)

/-- Go to a place in the output. -/
def seekOutput (c : Call) (k : Settings) (start bytes : Nat) (s : Progress) : Action Unit := do
  match ← Action.request (.seek 1 .here bytes) with
  | .ok _ => return
  | .error e =>
      c.warn (c.shown k.outputName ++ text ": cannot seek: " ++ e.reason)
      conclude k start s
      Action.exit 1

/-- Open a file in the place of a descriptor, or end with a complaint. -/
def openAs (c : Call) (target : Nat) (file : Octets) (mode : OpenMode) : Action Unit := do
  match ← Action.openFile file mode with
  | .ok fd =>
      if fd ≠ target then
        let _ ← Action.request (.duplicate fd target)
        Action.request (.close fd)
  | .error e => c.die 1 (text "failed to open " ++ c.quoted file ++ text ": " ++ e.reason)

/-- Give the file behind a descriptor a size. -/
def setSize (fd size : Nat) : Action Unit := do
  match ← Action.request (.inspect fd) with
  | some (.file identity) =>
      let _ ← Action.request (.amend fun fs =>
        match fs.root.fileWith? identity with
        | some d =>
            (fs.rewriteFile identity
              (d.bytes.take size ++ List.replicate (size - d.bytes.length) 0),
              ⟨0, []⟩)
        | none => (fs, ⟨0, []⟩))
  | _ => return

end Blocks

open Blocks in
/-- Copy in blocks. -/
def dd : Utility := fun c =>
  withOptions 1 "" [] c fun p => do
    let k ← settled c (← p.rest.foldlM (withOperand c) .initial)
    let split (flag : Bool) (n size : Nat) : Nat × Nat :=
      if flag then (n / size, n % size) else (n, 0)
    let (skipBlocks, skipBytes) := split (k.inputFlags.contains .skipBytes) k.skip k.inputSize
    let (seekBlocks, seekBytes) := split (k.outputFlags.contains .seekBytes) k.seek k.outputSize
    let (blocks?, bytes) := match k.count? with
      | none => (none, 0)
      | some n =>
          let (blocks, bytes) := split (k.inputFlags.contains .countBytes) n k.inputSize
          (some blocks, bytes)
    if let some file := k.input? then openAs c 0 file .reading
    let keeps := k.converts .noTruncation
    let place := seekBlocks * k.outputSize + seekBytes
    if let some file := k.output? then
      openAs c 1 file ⟨false, true, !k.converts .onlyOld, seekBlocks = 0 && !keeps,
        k.outputFlags.contains .append, k.converts .onlyNew, FileSystem.fileMode⟩
      if seekBlocks ≠ 0 && !keeps then setSize 1 place
    let start ← Action.request .clock
    let warns := k.isDirect && !k.inputFlags.contains .fullBlock &&
      (skipBlocks ≠ 0 || blocks?.any (· ≠ 0))
    let s : Progress := ⟨0, 0, 0, 0, 0, .initial, [], 0, 0, warns⟩
    if skipBlocks ≠ 0 || skipBytes ≠ 0 then
      if !(← skipInput c k start skipBlocks skipBytes s) then
        tell c k (c.shown k.inputName ++ text ": cannot skip to specified offset")
    if place ≠ 0 then seekOutput c k start place s
    if blocks? = some 0 && bytes = 0 then
      conclude k start s
      return 0
    let (status, s) ← copy c k start blocks? bytes s
    let s ← writeFull c k start (gathered { s with stream := k.finish s.stream })
    let s ← if s.pendingSize = 0 then pure s
      else do
        let s ← writeBlock c k start s s.pending.reverse.flatten
        pure { s with partialOut := s.partialOut + 1 }
    conclude k start s
    return status

end SkipAudit.Utility
