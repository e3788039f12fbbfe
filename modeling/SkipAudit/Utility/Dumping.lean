/-
The program that shows bytes: as numbers of some size in some base, as characters, or as the texts
that are hidden among them.
-/
import SkipAudit.Format.Directive
import SkipAudit.Utility.Copying
import SkipAudit.Utility.Parts

namespace SkipAudit.Utility

namespace Dumping

/-! ## One way to show bytes -/

/-- In which way bytes are shown. -/
inductive Manner where
  /-- Numbers in base eight or sixteen, with all their digits. -/
  | digits (base : Nat)
  | unsigned
  | signed
  | floating
  | chars
  | names
deriving DecidableEq

/-- A way of showing so many bytes together. -/
structure View where
  manner : Manner
  size : Nat
  /-- The characters stand behind the numbers. -/
  hasText : Bool
deriving DecidableEq

/-- The names of the characters that cannot be seen. -/
def controlNames : List String :=
  ["nul", "soh", "stx", "etx", "eot", "enq", "ack", "bel", "bs", "ht", "nl", "vt", "ff", "cr",
   "so", "si", "dle", "dc1", "dc2", "dc3", "dc4", "nak", "syn", "etb", "can", "em", "sub", "esc",
   "fs", "gs", "rs", "us", "sp"]

/-- A byte as a character. -/
def charText (n : Nat) : Octets :=
  let c := Char.ofNat n
  match Quoting.escapeLetter? c with
  | some l => ['\\', l]
  | none =>
      if n = 0 then text "\\0" else if 32 ≤ n && n < 127 then [c] else Quoting.octal c

/-- A byte by the name of its character, the highest bit aside. -/
def nameText (n : Nat) : Octets :=
  let n := n % 128
  match controlNames[n]? with
  | some name => text name
  | none => if n = 127 then text "del" else [Char.ofNat n]

/-- The format of a floating number of so many bytes. -/
def floatFormat (size : Nat) : FloatFormat :=
  match size with
  | 4 => ⟨24, -149, 128⟩
  | 8 => .double
  | _ => .extended

/-- The floating number with some bits. -/
def floatOf (size bits : Nat) : Floating :=
  if size = 16 then
    let m := bits % Natural.twoTo 64
    let e := bits / Natural.twoTo 64 % 32768
    let s := bits / Natural.twoTo 79 % 2 = 1
    if e = 32767 then
      (if m = Natural.twoTo 63 then .infinite s else .notANumber s)
    else if m < Natural.twoTo 63 && e ≠ 0 then .notANumber s
    else .finite s m ((max e 1 : Nat) - 16445 - 1)
  else
    let f := floatFormat size
    let places := f.precision - 1
    let exponents := f.bound * 2
    let m := bits % Natural.twoTo places
    let e := bits / Natural.twoTo places % exponents
    let s := bits / Natural.twoTo places / exponents % 2 = 1
    if e = exponents - 1 then (if m = 0 then .infinite s else .notANumber s)
    else if e = 0 then .finite s m f.least
    else .finite s (m + Natural.twoTo places) (f.least + (e - 1 : Nat))

/-- How many digits a number has at least, and how many places it takes. -/
def floatDigits (size : Nat) : Nat × Nat :=
  match size with
  | 4 => (6, 15)
  | 8 => (15, 24)
  | _ => (18, 29)

/-- A floating number in as few digits as tell it from all others, but no fewer than some; the
first number bounds how many more are tried. -/
def fewestDigits (f : FloatFormat) (x : Floating) : Nat → Nat → Octets
  | 0, digits => Format.Directive.onFloating ⟨[], 0, some digits⟩ f 'g' x
  | fuel + 1, digits =>
      let t := Format.Directive.onFloating ⟨[], 0, some digits⟩ f 'g' x
      match Floating.read? f t with
      | some r => if Floating.compare r.value x = .eq then t else fewestDigits f x fuel (digits + 1)
      | none => t

/-- A floating number as it is shown. -/
def floatText (size bits : Nat) : Octets :=
  let f := floatFormat size
  let x := floatOf size bits
  let isSmall : Bool := match x with
    | .finite _ m _ => m < Natural.twoTo (f.precision - 1)
    | _ => false
  fewestDigits f x 20 (if isSmall then 1 else (floatDigits size).1)

/-- A text in the last places of a field. -/
def inPlaces (width : Nat) (t : Octets) : Octets := List.replicate (width - t.length) ' ' ++ t

namespace View

/-- How many places a number takes. -/
def width (v : View) : Nat :=
  let limit := Natural.twoTo (8 * v.size)
  match v.manner with
  | .digits base => (Nat.toDigits base (limit - 1)).length
  | .unsigned => (Text.ofNat (limit - 1)).length
  | .signed => (Text.ofNat (limit / 2)).length + 1
  | .floating => (floatDigits v.size).2
  | .chars | .names => 3

/-- The number that some bytes make up. -/
def value (isBig : Bool) (bytes : Octets) : Nat :=
  if isBig then bytes.foldl (fun n c => n * 256 + c.toNat) 0
  else bytes.foldr (fun c n => c.toNat + 256 * n) 0

/-- What is shown of some bytes. -/
def shown (v : View) (isBig : Bool) (bytes : Octets) : Octets :=
  let n := value isBig bytes
  match v.manner with
  | .digits base =>
      let ds := Nat.toDigits base n
      List.replicate (v.width - ds.length) '0' ++ ds
  | .unsigned => Text.ofNat n
  | .signed =>
      let limit := Natural.twoTo (8 * v.size)
      Text.ofInt (if limit / 2 ≤ n then (n : Int) - limit else n)
  | .floating => floatText v.size n
  | .chars => charText n
  | .names => nameText n

/-- The fields of a line: `padding` places are to be spread over `count` fields. -/
def fields (v : View) (isBig : Bool) (padding count : Nat) : Nat → List Octets → Octets
  | _, [] => []
  | left, group :: groups =>
      let before := padding * left / count
      let after := padding * (left - 1) / count
      inPlaces (before - after + v.width + 1) (v.shown isBig group) ++
        fields v isBig padding count (left - 1) groups

end View

/-- Parts of a text, all but the last of one size; the number bounds how many there are. -/
def cutEvery (size : Nat) : Nat → Octets → List Octets
  | 0, _ | _, [] => []
  | n + 1, t => t.take size :: cutEvery size n (t.drop size)

/-- The line for some bytes, of which a whole line has `whole`. -/
def View.line (v : View) (isBig : Bool) (whole padding : Nat) (bytes : Octets) : Octets :=
  let groups := (cutEvery v.size bytes.length bytes).map fun g =>
    g ++ List.replicate (v.size - g.length) Octets.nul
  let count := whole / v.size
  let t := v.fields isBig padding count count groups
  if v.hasText then
    let full := count * (v.width + 1) + padding
    t ++ List.replicate (full - t.length) ' ' ++ text "  >" ++
      (bytes.map fun c => if ' ' ≤ c && c ≤ '~' then c else '.') ++ ['<']
  else t

/-! ## Reading what is wanted -/

/-- The sizes that whole numbers may have. -/
def wholeSizes : List Nat := [1, 2, 4, 8]

/-- The sizes that floating numbers may have. -/
def floatSizes : List Nat := [4, 8, 16]

/-- How many bytes a size letter or number stands for. -/
def sizeOf (c : Call) (spelled : Octets) (isFloat : Bool) (t : Octets) :
    Except Octets (Nat × Octets) :=
  let letters := if isFloat then [('F', 4), ('D', 8), ('L', 16)]
    else [('C', 1), ('S', 2), ('I', 4), ('L', 8)]
  match t with
  | x :: rest =>
      match letters.lookup x with
      | some n => .ok (n, rest)
      | none =>
          let ds := t.takeWhile Char.isDigit
          match Text.toNat? ds with
          | none => .ok (if isFloat then 8 else 4, t)
          | some n =>
              if (if isFloat then floatSizes else wholeSizes).contains n then
                .ok (n, t.drop ds.length)
              else
                .error (text "invalid type string " ++ c.quote spelled ++
                  text ";\nthis system doesn't provide a " ++ Text.ofNat n ++
                  text (if isFloat then "-byte floating point type" else "-byte integral type"))
  | [] => .ok (if isFloat then 8 else 4, [])

/-- Read a text that tells views; the number bounds how many. -/
def viewsIn (c : Call) (spelled : Octets) : Nat → Octets → Except Octets (List View)
  | 0, _ | _, [] => .ok []
  | n + 1, x :: t => do
      let manner ← match x with
        | 'o' => pure (Manner.digits 8)
        | 'x' => pure (Manner.digits 16)
        | 'u' => pure Manner.unsigned
        | 'd' => pure Manner.signed
        | 'f' => pure Manner.floating
        | 'c' => pure Manner.chars
        | 'a' => pure Manner.names
        | x => Except.error (text "invalid character '" ++ x :: text "' in type string " ++
            c.quote spelled)
      let isChar := manner = .chars || manner = .names
      let (size, rest) ← if isChar then pure (1, t) else sizeOf c spelled (manner = .floating) t
      let (hasText, rest) := match rest with
        | 'z' :: rest => (true, rest)
        | rest => (false, rest)
      return ⟨manner, size, hasText⟩ :: (← viewsIn c spelled n rest)

/-- The view that a letter stands for. -/
def oldView? (letter : Char) : Option View :=
  match letter with
  | 'a' => some ⟨.names, 1, false⟩
  | 'b' => some ⟨.digits 8, 1, false⟩
  | 'c' => some ⟨.chars, 1, false⟩
  | 'D' => some ⟨.unsigned, 4, false⟩
  | 'd' => some ⟨.unsigned, 2, false⟩
  | 'e' | 'F' => some ⟨.floating, 8, false⟩
  | 'f' => some ⟨.floating, 4, false⟩
  | 'H' | 'X' => some ⟨.digits 16, 4, false⟩
  | 'i' => some ⟨.signed, 4, false⟩
  | 'I' | 'L' | 'l' => some ⟨.signed, 8, false⟩
  | 'O' => some ⟨.digits 8, 4, false⟩
  | 'B' | 'o' => some ⟨.digits 8, 2, false⟩
  | 's' => some ⟨.signed, 2, false⟩
  | 'h' | 'x' => some ⟨.digits 16, 2, false⟩
  | _ => none

/-- The views that options ask for. -/
def viewsFor (c : Call) (options : List (Char × Octets)) : Except Octets (List View) := do
  let views ← options.mapM fun (o, v) =>
    if o = 't' then viewsIn c v v.length v else pure (oldView? o).toList
  return views.flatten

/-! ## All bytes -/

/-- How bytes are shown. -/
structure Settings where
  views : List View
  /-- The base of the places: one of `doxn`. -/
  base : Char
  /-- The bytes of a line. -/
  whole : Nat
  showsRepeats : Bool
  isBig : Bool

/-- The text for the place of a byte. -/
def placeText (base : Char) (n : Nat) : Octets :=
  let padded (width : Nat) (ds : Octets) := List.replicate (width - ds.length) '0' ++ ds
  match base with
  | 'd' => padded 7 (Text.ofNat n)
  | 'x' => padded 6 (Nat.toDigits 16 n)
  | 'n' => []
  | _ => padded 7 (Nat.toDigits 8 n)

/-- The lines for some bytes from a place on.  Lines that repeat the one before are left out,
unless all are wanted. -/
def lines (k : Settings) : Nat → Octets → Bool → List Octets → Octets
  | _, _, _, [] => []
  | place, before, isMarked, bytes :: rest =>
      if !k.showsRepeats && bytes = before && bytes.length = k.whole then
        (if isMarked then [] else ['*', '\n']) ++
          lines k (place + bytes.length) bytes true rest
      else
        let most := (k.views.map fun v => k.whole / v.size * (v.width + 1)).foldl max 0
        let shown := k.views.map fun v =>
          v.line k.isBig k.whole (most - k.whole / v.size * (v.width + 1)) bytes ++ ['\n']
        let front := placeText k.base place
        let indent := List.replicate front.length ' '
        (List.intersperse indent shown).foldl (· ++ ·) front ++
          lines k (place + bytes.length) bytes false rest

/-- The texts of so many characters or more that are hidden among bytes. -/
def hidden (base : Char) (least : Nat) : Nat → Octets → Octets → Octets
  | _, _, [] => []
  | place, found, x :: t =>
      if 32 ≤ x.toNat && x.toNat < 127 || ('\x08' ≤ x && x ≤ '\r') then
        hidden base least (place + 1) (found ++ [x]) t
      else
        (if x = Octets.nul && least ≤ found.length then
            (let front := placeText base (place - found.length)
             if front = [] then [] else front ++ [' ']) ++
              found.flatMap (fun y => match Quoting.escapeLetter? y with
                | some l => ['\\', l]
                | none => [y]) ++ ['\n']
          else []) ++ hidden base least (place + 1) [] t

/-- Read a place in an old form. -/
def oldPlace? (t : Octets) : Option Nat :=
  let t := match t with
    | '+' :: t => t
    | t => t
  let (t, factor) := match t.getLast? with
    | some 'b' => (t.dropLast, 512)
    | some 'B' => (t.dropLast, 1024)
    | _ => (t, 1)
  let base := if t.getLast? = some '.' then 10 else if Text.startsWith (text "0x") t then 16 else 8
  let ds := if base = 10 then t.dropLast else if base = 16 then t.drop 2 else t
  let (n, size, rest) := Signed64.digits base 0 ds
  if size = 0 || rest ≠ [] then none else some (n * factor)

/-- The files, and how much of the first is skipped, where an operand in an old form says so. -/
def withOldPlace (isOld : Bool) (files : List Octets) : List Octets × Option Nat :=
  match isOld, files with
  | true, [a] =>
      if a.head? = some '+' then
        match oldPlace? a with
        | some n => ([], some n)
        | none => (files, none)
      else (files, none)
  | true, [a, b] =>
      if b.head?.any fun x => x = '+' || x.isDigit then
        match oldPlace? b with
        | some n => ([a], some n)
        | none => (files, none)
      else (files, none)
  | _, _ => (files, none)

/-- The words for the order of bytes. -/
def orderWords : List (String × Bool) := [("little", false), ("big", true)]

/-- The least number that two others divide. -/
def commonMultiple (views : List View) : Nat := views.foldl (fun n v => Nat.lcm n v.size) 1

end Dumping

open Dumping in
/-- Show bytes. -/
def od : Utility := fun c =>
  withOptions 1 "A:aBbcDdeFfHhIij:LlN:OoS:st:vw::Xx"
    [("skip-bytes", 'j', .needed), ("address-radix", 'A', .needed), ("read-bytes", 'N', .needed),
     ("format", 't', .needed), ("output-duplicates", 'v', .none), ("strings", 'S', .optional),
     ("traditional", 'τ', .none), ("width", 'w', .optional), ("endian", 'ε', .needed)] c
    fun p => do
    let base ← match p.value? 'A' with
      | none => pure 'o'
      | some t =>
          match t with
          | x :: _ =>
              if "doxn".toList.contains x then pure x
              else
                c.die 1 (text "invalid output address radix '" ++ x ::
                  text "'; it must be one character from [doxn]")
          | [] => c.die 1 (text ("invalid output address radix '\x00'; " ++
              "it must be one character from [doxn]"))
    let amount (option : String) (t? : Option Octets) : Action (Option Nat) := do
      match t? with
      | none => return none
      | some t =>
          let t := match t with
            | '0' :: x :: rest =>
                if x = 'x' || x = 'X' then
                  let (n, size, more) := Signed64.digits 16 0 rest
                  if size = 0 then t else Text.ofNat n ++ more
                else
                  let (n, size, more) := Signed64.digits 8 0 (x :: rest)
                  if size = 0 then t else Text.ofNat n ++ more
            | t => t
          return some (← optionCount 1 c option "bEGKkMmPTYZ0" t)
    let skipped? ← amount "-j" (p.value? 'j')
    let limit? ← amount "-N" (p.value? 'N')
    let least? ← match p.value? 'S' with
      | some [] => pure (some 3)
      | t? => amount "-S" t?
    let isBig ← match p.value? 'ε' with
      | some w => chosen 1 c "--endian" orderWords w
      | none => pure false
    let width? ← match p.value? 'w' with
      | some [] => pure (some 32)
      | t? => amount "-w" t?
    let views ← match viewsFor c p.options with
      | .error t => c.die 1 t
      | .ok views => pure views
    if least?.isSome && views ≠ [] then
      c.die 1 (text "no type may be specified when dumping strings")
    let views := if views = [] then [⟨.digits 8, 2, false⟩] else views
    let isModern := p.options.any fun o => "AjNStwε".toList.contains o.1
    let (files, place?) := withOldPlace (!isModern || p.has 'τ') p.rest
    let skipped := (place?.or skipped?).getD 0
    let unit := commonMultiple views
    let whole ← match width? with
      | none => pure (if unit < 16 then 16 / unit * unit else unit)
      | some n =>
          if n ≠ 0 && n % unit = 0 then pure n
          else do
            c.warn (text "warning: invalid width " ++ Text.ofNat n ++ text "; using " ++
              Text.ofNat unit ++ text " instead")
            pure unit
    let (status, chunks) ← (inputsOr files).foldlM (fun (status, chunks) file => do
      match ← readInput file with
      | .ok bytes => return (status, bytes :: chunks)
      | .error e => do
          c.warn (c.shown (inputName file) ++ text ": " ++ e.reason)
          return (1, chunks)) ((0, []) : Nat × List Octets)
    let all := chunks.reverse.flatten
    if all.length < skipped then do
      c.warn (text "cannot skip past end of combined input")
      return 1
    else
      let bytes := all.drop skipped
      let bytes := match limit? with
        | some n => bytes.take n
        | none => bytes
      match least? with
      | some least => do
          say c (hidden base least skipped [] bytes)
          return status
      | none => do
          let k : Settings := ⟨views, base, whole, p.has 'v', isBig⟩
          say c (lines k skipped [] false (cutEvery whole bytes.length bytes))
          let last := placeText base (skipped + bytes.length)
          if last ≠ [] then say c (last ++ ['\n'])
          return status

end SkipAudit.Utility
