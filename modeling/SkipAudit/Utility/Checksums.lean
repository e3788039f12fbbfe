/-
Programs that write the digests of files, or check files against digests that were written.
-/
import SkipAudit.Digest.Blake
import SkipAudit.Digest.Checksum
import SkipAudit.Digest.Md5
import SkipAudit.Digest.Sha
import SkipAudit.Digest.Sm3
import SkipAudit.Text.Radix
import SkipAudit.Utility.Deeds
import SkipAudit.Utility.Quantity

namespace SkipAudit.Utility

namespace Checksums

/-! ## Algorithms -/

/-- An algorithm. -/
inductive Algorithm where
  | bsd
  | sysv
  | crc
  | md5
  | sha1
  | sha224
  | sha256
  | sha384
  | sha512
  | blake2b
  | sm3
deriving DecidableEq

namespace Algorithm

/-- The words for the algorithms. -/
def words : List (String × Algorithm) :=
  [("bsd", bsd), ("sysv", sysv), ("crc", crc), ("md5", md5), ("sha1", sha1), ("sha224", sha224),
   ("sha256", sha256), ("sha384", sha384), ("sha512", sha512), ("blake2b", blake2b), ("sm3", sm3)]

/-- The name in front of a digest. -/
def tag : Algorithm → String
  | bsd => "BSD"
  | sysv => "SYSV"
  | crc => "CRC"
  | md5 => "MD5"
  | sha1 => "SHA1"
  | sha224 => "SHA224"
  | sha256 => "SHA256"
  | sha384 => "SHA384"
  | sha512 => "SHA512"
  | blake2b => "BLAKE2b"
  | sm3 => "SM3"

/-- It is a mere sum, which is written in a form of its own. -/
def isSum (a : Algorithm) : Bool := a = bsd || a = sysv || a = crc

/-- How many bytes its digests have; those of one of them may have fewer. -/
def size : Algorithm → Nat
  | bsd | sysv => 2
  | crc => 4
  | md5 => 16
  | sha1 => 20
  | sha224 => 28
  | sha256 | sm3 => 32
  | sha384 => 48
  | sha512 | blake2b => 64

/-- The sum of a text. -/
def sum (a : Algorithm) (t : Octets) : Nat :=
  match a with
  | bsd => Digest.turningSum t
  | sysv => Digest.plainSum t
  | _ => Digest.crc t

/-- The digest of so many bytes. -/
def digest (a : Algorithm) (size : Nat) (t : Octets) : Octets :=
  let b := Digest.bytesOf t
  Octets.ofBytes (match a with
    | md5 => Digest.md5 b
    | sha1 => Digest.sha1 b
    | sha224 => Digest.sha224 b
    | sha256 => Digest.sha256 b
    | sha384 => Digest.sha384 b
    | sha512 => Digest.sha512 b
    | blake2b => Digest.blake2b size b
    | sm3 => Digest.sm3 b
    | bsd | sysv | crc => Digest.ByteOrder.highestFirst.bytes a.size (a.sum t))

end Algorithm

/-! ## Names in lines -/

/-- A name has characters that would break a line. -/
def isProblematic (file : Octets) : Bool := file.any fun c => c = '\\' || c = '\n' || c = '\r'

/-- A name with escapes for those. -/
def escapedName (file : Octets) : Octets :=
  file.flatMap fun c =>
    if c = '\\' then text "\\\\" else if c = '\n' then text "\\n" else if c = '\r' then text "\\r"
    else [c]

/-- The name that stands for one with escapes. -/
def unescapedName? : Octets → Option Octets
  | [] => some []
  | '\\' :: c :: t =>
      match c with
      | '\\' => (unescapedName? t).map ('\\' :: ·)
      | 'n' => (unescapedName? t).map ('\n' :: ·)
      | 'r' => (unescapedName? t).map ('\r' :: ·)
      | _ => none
  | '\\' :: [] => none
  | c :: t => if c = Octets.nul then none else (unescapedName? t).map (c :: ·)

/-! ## Writing -/

/-- How digests are written. -/
structure Form where
  algorithm : Algorithm
  /-- How many bytes they have. -/
  size : Nat
  hasTag : Bool
  isBinary : Bool
  lineEnd : Char
  /-- Files are named. -/
  namesFiles : Bool

/-- The line for a file with some contents. -/
def Form.line (k : Form) (file t : Octets) : Octets :=
  let name := if k.namesFiles then ' ' :: file else []
  let a := k.algorithm
  if a = .bsd then
    let sum := Text.ofNat (a.sum t)
    let blocks := Text.ofNat ((t.length + 1023) / 1024)
    List.replicate (5 - sum.length) '0' ++ sum ++ [' '] ++
      List.replicate (5 - blocks.length) ' ' ++ blocks ++ name ++ [k.lineEnd]
  else if a = .sysv then
    Text.ofNat (a.sum t) ++ ' ' :: Text.ofNat ((t.length + 511) / 512) ++ name ++ [k.lineEnd]
  else if a = .crc then
    Text.ofNat (a.sum t) ++ ' ' :: Text.ofNat t.length ++ name ++ [k.lineEnd]
  else
    let escapes := k.lineEnd = '\n' && isProblematic file
    let front := if escapes then ['\\'] else []
    let shown := if escapes then escapedName file else file
    let digest := Radix.hexadecimal.encode (a.digest k.size t)
    if k.hasTag then
      let size := if a = .blake2b && k.size < a.size then '-' :: Text.ofNat (k.size * 8) else []
      front ++ text a.tag ++ size ++ text " (" ++ shown ++ text ") = " ++ digest ++ [k.lineEnd]
    else front ++ digest ++ [' ', if k.isBinary then '*' else ' '] ++ shown ++ [k.lineEnd]

/-! ## Reading -/

/-- A line to check: a file, and what its digest should be. -/
structure Claim where
  algorithm : Algorithm
  size : Nat
  digest : Octets
  file : Octets

/-- A character of a number in base sixteen. -/
def isHex (c : Char) : Bool := c.isDigit || ('a' ≤ c.toLower && c.toLower ≤ 'f')

/-- A blank. -/
def isGap (c : Char) : Bool := c = ' ' || c = '\t'

/-- The text may be a digest of so many bytes. -/
def isDigest (size : Nat) (t : Octets) : Bool := t.length = size * 2 && t.all isHex

/-- How the lines of a file are understood. -/
structure Manner where
  /-- The algorithm, if it is known before. -/
  algorithm? : Option Algorithm
  /-- Lines have one blank between digest and name; none before the first line. -/
  isReversed? : Option Bool

/-- The algorithm whose tag a line begins with. -/
def tagged? (m : Manner) (t : Octets) : Option (Algorithm × Octets) :=
  match m.algorithm? with
  | some a => (Text.dropStart? (text a.tag) t).map (a, ·)
  | none =>
      let found := (Algorithm.words.map (·.2)).filterMap fun a =>
        if a.isSum then none else (Text.dropStart? (text a.tag) t).bind fun rest =>
          if rest.head?.any fun c => c = ' ' || c = '-' || c = '(' then some (a, rest) else none
      found.head?

/-- A claim in a line that begins with a tag. -/
def taggedClaim? (isEscaped : Bool) (a : Algorithm) (t : Octets) : Option Claim := do
  let (size, t) ← match a, t with
    | .blake2b, '-' :: t =>
        let ds := t.takeWhile Char.isDigit
        match Text.toNat? ds with
        | some n =>
            if n = 0 || a.size * 8 < n || n % 8 ≠ 0 then none else some (n / 8, t.drop ds.length)
        | none => none
    | _, t => some (a.size, t)
  let t := match t with
    | ' ' :: t => t
    | t => t
  match t with
  | '(' :: t =>
      match t.reverse.span (· != ')') with
      | (_, []) => none
      | (after, _ :: before) =>
          match after.reverse.dropWhile isGap with
          | '=' :: digest =>
              let digest := digest.dropWhile isGap
              let file ← if isEscaped then unescapedName? before.reverse else some before.reverse
              if isDigest size digest then some ⟨a, size, digest, file⟩ else none
          | _ => none
  | _ => none

/-- A claim in a line that begins with a digest, and whether the line has one blank only. -/
def plainClaim? (m : Manner) (isEscaped : Bool) (t : Octets) : Option (Claim × Bool) := do
  let a ← m.algorithm?
  if a.isSum then none
  let ds := t.takeWhile isHex
  let size := if a = .blake2b then ds.length / 2 else a.size
  if !isDigest size ds || size = 0 || a.size < size then none
  match t.drop ds.length with
  | gap :: rest =>
      if !isGap gap || rest = [] then none
      else
        let isSingle := rest.length = 1 || (rest.head? ≠ some ' ' && rest.head? ≠ some '*')
        let file := if isSingle || m.isReversed? = some true then rest else rest.drop 1
        let file ← if isEscaped then unescapedName? file else some file
        if isSingle && m.isReversed? = some false then none
        else some (⟨a, size, ds, file⟩, isSingle || m.isReversed? = some true)
  | [] => none

/-- The claim in a line, and how lines are understood from then on. -/
def claim? (m : Manner) (line : Octets) : Option (Claim × Manner) := do
  let t := line.dropWhile isGap
  let (isEscaped, t) := match t with
    | '\\' :: t => (true, t)
    | t => (false, t)
  match tagged? m t with
  | some (a, rest) => do return (← taggedClaim? isEscaped a rest, m)
  | none => do
      let (claim, isReversed) ← plainClaim? m isEscaped t
      return (claim, { m with isReversed? := some isReversed })

/-! ## Checking -/

/-- How much is told of a check. -/
structure Telling where
  ignoresMissing : Bool
  isQuiet : Bool
  isSilent : Bool
  isStrict : Bool
  warns : Bool

/-- What a check has come to. -/
structure Tally where
  manner : Manner
  line : Nat
  hasClaims : Bool
  hasMatch : Bool
  misformatted : Nat
  unreadable : Nat
  mismatched : Nat

/-- A digest is the one that was claimed; large letters count as small ones. -/
def agrees (k : Claim) (bytes : Octets) : Bool :=
  k.digest.map Char.toLower == Radix.hexadecimal.encode bytes

/-- Check a claim. -/
def checkClaim (c : Call) (k : Telling) (s : Tally) (claim : Claim) : Action Tally := do
  let tell (what : String) : Action Unit := do
    if !k.isSilent then
      let isEscaped := isProblematic claim.file
      say c ((if isEscaped then ['\\'] else []) ++
        (if isEscaped then escapedName claim.file else claim.file) ++ text ": " ++ text what ++
        ['\n'])
  let s := { s with hasClaims := true }
  match ← readInput claim.file with
  | .error e =>
      if k.ignoresMissing && e = .notFound then return s
      else
        c.warn (because c claim.file e)
        tell "FAILED open or read"
        return { s with unreadable := s.unreadable + 1 }
  | .ok t =>
      if agrees claim (claim.algorithm.digest claim.size t) then
        if !k.isQuiet then tell "OK"
        return { s with hasMatch := true }
      else
        tell "FAILED"
        return { s with mismatched := s.mismatched + 1 }

/-- Check a line. -/
def checkLine (c : Call) (k : Telling) (usualTag : String) (name : Octets) (isInput : Bool)
    (s : Tally) (l : Octets) : Action Tally := do
  let s := { s with line := s.line + 1 }
  let content := Text.dropFinal '\r' (bare l)
  if l.head? = some '#' || content = [] then return s
  else match claim? s.manner content with
    | some (claim, m) =>
        if isInput && claim.file = ['-'] then misformatted s
        else checkClaim c k { s with manner := m } claim
    | none => misformatted s
where
  /-- A line is not as it should be. -/
  misformatted (s : Tally) : Action Tally := do
    if k.warns then
      let tag := ((s.manner.algorithm?).map Algorithm.tag).getD usualTag
      c.warn (c.shown name ++ text ": " ++ Text.ofNat s.line ++ text ": improperly formatted " ++
        text tag ++ text " checksum line")
    return { s with misformatted := s.misformatted + 1 }

/-- Warn of a number of things. -/
def warnOf (c : Call) (n : Nat) (one several : String) : Action Unit := do
  if n ≠ 0 then
    c.warn (text "WARNING: " ++ Text.ofNat n ++ text (if n = 1 then one else several))

/-- Check the lines of a file. -/
def checkFile (c : Call) (k : Telling) (m : Manner) (file : Octets) : Action Nat := do
  let isInput := file = ['-']
  let name := if isInput then text "standard input" else file
  match ← openInput file with
  | .error e =>
      c.warn (because c file e)
      return 1
  | .ok fd =>
      match ← Action.readAll fd with
      | .error e =>
          c.warn (because c name e)
          return 1
      | .ok t =>
          closeInput fd
          let s ← (linesOf t).foldlM (checkLine c k "CRC" name isInput)
            (⟨m, 0, false, false, 0, 0, 0⟩ : Tally)
          if !s.hasClaims then
            c.warn (c.shown name ++ text ": no properly formatted checksum lines found")
          else if !k.isSilent then
            warnOf c s.misformatted " line is improperly formatted"
              " lines are improperly formatted"
            warnOf c s.unreadable " listed file could not be read"
              " listed files could not be read"
            warnOf c s.mismatched " computed checksum did NOT match"
              " computed checksums did NOT match"
            if k.ignoresMissing && !s.hasMatch then
              c.warn (c.shown name ++ text ": no file was verified")
          let isFine := s.hasClaims && (!k.ignoresMissing || s.hasMatch) && s.mismatched = 0 &&
            s.unreadable = 0 && (!k.isStrict || s.misformatted = 0)
          return if isFine then 0 else 1

/-- Write the digests of files.  A directory counts as an empty file where lengths are told. -/
def writeAll (c : Call) (k : Form) (files : List Octets) : Action Nat :=
  forEach files fun file => do
    let tell (t : Octets) : Action Nat := do
      say c (k.line file t)
      return 0
    match ← readInput file with
    | .error e =>
        if k.algorithm = .crc && e = .isDirectory then tell []
        else
          c.warn (because c file e)
          return 1
    | .ok t => tell t

/-! ## Options -/

/-- The words of the options that all of these programs know. -/
def commonWords : List Word :=
  [("binary", 'b', .none), ("check", 'c', .none), ("ignore-missing", 'μ', .none),
   ("quiet", 'θ', .none), ("status", 'σ', .none), ("strict", 'δ', .none), ("tag", 'τ', .none),
   ("text", 't', .none), ("warn", 'w', .none), ("zero", 'z', .none)]

/-- The complaint of a length of digests. -/
def invalidLength (c : Call) (t : Octets) : Octets := text "invalid length: " ++ c.quote t

/-- The length of digests in bits, as an option says it; zero if it says nothing. -/
def bitsOf (c : Call) (t? : Option Octets) : Action Nat := do
  let t := t?.getD ['0']
  let n ← countOr 1 c "invalid length" "" 0 greatestCount t
  if n % 8 ≠ 0 then
    c.warn (invalidLength c t)
    c.die 1 (text "length is not a multiple of 8")
  return n

/-- The length of digests in bytes for a length in bits, which an option says. -/
def sizeFor (c : Call) (a : Algorithm) (bits : Nat) (t? : Option Octets) : Action Nat := do
  if a.size * 8 < bits then
    c.warn (invalidLength c (t?.getD []))
    c.die 1 (text "maximum digest length for " ++ c.quote (text a.tag) ++ text " is " ++
      Text.ofNat (a.size * 8) ++ text " bits")
  return if bits = 0 then a.size else bits / 8

/-- Complain of options that mean nothing unless digests are checked. -/
def onlyForChecks (c : Call) (p : Parsed) : Action Unit := do
  let last? := p.lastOf? ['θ', 'σ', 'w']
  let given := (if p.has 'μ' then ["ignore-missing"] else []) ++
    (match last? with
      | some 'σ' => ["status"]
      | some 'w' => ["warn"]
      | some _ => ["quiet"]
      | none => []) ++
    (if p.has 'δ' then ["strict"] else [])
  match given with
  | [] => return
  | w :: _ =>
      c.misuse 1 (text ("the --" ++ w ++
        " option is meaningful only when verifying checksums"))

/-- How much is told, as options say it. -/
def tellingOf (p : Parsed) : Telling :=
  let last? := p.lastOf? ['θ', 'σ', 'w']
  ⟨p.has 'μ', last? = some 'θ', last? = some 'σ', p.has 'δ', last? = some 'w'⟩

/-- Complain of options that mean nothing where digests are checked. -/
def notForChecks (c : Call) (p : Parsed) (takesTags : Bool) : Action Unit := do
  if p.has 'z' then
    c.misuse 1 (text "the --zero option is not supported when verifying checksums")
  if p.has 'τ' && !takesTags then
    c.misuse 1 (text "the --tag option is meaningless when verifying checksums")
  if p.has 'b' || p.has 't' || p.has 'τ' then
    c.misuse 1 (text "the --binary and --text options are meaningless when verifying checksums")

end Checksums

open Checksums in
/-- Write or check the digests of one algorithm. -/
def digestSum (a : Algorithm) : Utility := fun c =>
  let takesLength := a = .blake2b
  withOptions 1 (if takesLength then "bctwzl:" else "bctwz")
    (commonWords ++ if takesLength then [("length", 'l', .needed)] else []) c fun p => do
    let size ← sizeFor c a (← bitsOf c (p.value? 'l')) (p.value? 'l')
    let isText := (p.lastOf? ['b', 't', 'τ']) = some 't'
    if p.has 'τ' && isText then c.misuse 1 (text "--tag does not support --text mode")
    if p.has 'c' then
      notForChecks c p false
      forEach (inputsOr p.rest) (checkFile c (tellingOf p) ⟨some a, none⟩)
    else
      onlyForChecks c p
      let form : Form :=
        { algorithm := a, size, hasTag := p.has 'τ', isBinary := p.has 'b' && !isText
          lineEnd := if p.has 'z' then Octets.nul else '\n', namesFiles := true }
      writeAll c form (inputsOr p.rest)

open Checksums in
/-- Write or check the digests of any algorithm. -/
def cksum : Utility := fun c =>
  withOptions 1 "a:bctwzl:"
    (commonWords ++ [("algorithm", 'a', .needed), ("length", 'l', .needed),
      ("untagged", 'υ', .none), ("debug", 'Δ', .none)]) c fun p => do
    let algorithm? ← (p.values 'a').foldlM (fun (_ : Option Algorithm) w => do
      return some (← chosenExactly 1 c "--algorithm" Algorithm.words w)) none
    let a := algorithm?.getD .crc
    let bits ← bitsOf c (p.value? 'l')
    if bits ≠ 0 && a ≠ .blake2b then
      c.die 1 (text "--length is only supported with --algorithm=blake2b")
    let size ← sizeFor c a bits (p.value? 'l')
    if a.isSum && p.has 'c' && algorithm?.isSome then
      c.die 1 (text "--check is not supported with --algorithm=\x7bbsd,sysv,crc\x7d")
    let hasTag := (p.lastOf? ['τ', 'υ']) ≠ some 'υ'
    let isText := (p.lastOf? ['b', 't', 'τ']) = some 't'
    if hasTag && isText then
      c.misuse 1 (text "--text mode is only supported with --untagged")
    if p.has 'c' then
      notForChecks c p true
      forEach (inputsOr p.rest) (checkFile c (tellingOf p) ⟨algorithm?, none⟩)
    else
      onlyForChecks c p
      let form : Form :=
        { algorithm := a, size, hasTag, isBinary := p.has 'b' && !isText
          lineEnd := if p.has 'z' then Octets.nul else '\n'
          namesFiles := !a.isSum || p.rest ≠ [] }
      writeAll c form (inputsOr p.rest)

open Checksums in
/-- Write sums in one of two old forms. -/
def sum : Utility := fun c =>
  withOptions 1 "rs" [("sysv", 's', .none)] c fun p =>
    writeAll c
      { algorithm := if p.lastOf? ['r', 's'] = some 's' then .sysv else .bsd, size := 2
        hasTag := false, isBinary := false, lineEnd := '\n'
        namesFiles := p.rest ≠ [] } (inputsOr p.rest)

end SkipAudit.Utility
