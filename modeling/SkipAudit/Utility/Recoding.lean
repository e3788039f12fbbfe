/-
Programs that write bytes in digits, and digits in bytes.
-/
import SkipAudit.Text.Radix
import SkipAudit.Utility.Deeds
import SkipAudit.Utility.Dumping
import SkipAudit.Utility.Quantity

namespace SkipAudit.Utility

namespace Recoding

/-! ## Eighty-five digits -/

/-- The digits, each of which is a number below eighty-five. -/
def digits85 : List Char :=
  Radix.tenDigits ++ Radix.smallLetters ++ Radix.largeLetters ++
    ".-:+=^!/*?&<>()[]\x7b\x7d@%$#".toList

/-- Five digits for each four bytes; the number bounds how many. -/
def encode85 : Nat → Octets → Octets
  | n + 1, a :: b :: d :: e :: t =>
      let value := [a, b, d, e].foldl (fun n c => n * 256 + c.toNat) 0
      ([4, 3, 2, 1, 0].map fun i => (digits85[value / Nat.pow 85 i % 85]?).getD '0') ++ encode85 n t
  | _, _ => []

/-- Four bytes for each five digits, and whether all of them are right; the number bounds how
many. -/
def decode85 : Nat → Octets → Octets × Bool
  | 0, _ | _, [] => ([], true)
  | n + 1, t =>
      match (t.take 5).mapM digits85.idxOf? with
      | some [a, b, d, e, f] =>
          let value := [a, b, d, e, f].foldl (fun n i => n * 85 + i) 0
          if Natural.twoTo 32 ≤ value then ([], false)
          else
            let (more, isRight) := decode85 n (t.drop 5)
            ([3, 2, 1, 0].map (fun i => Char.ofNat (value / Nat.pow 256 i % 256)) ++ more, isRight)
      | _ => ([], false)

/-! ## Any digits -/

/-- A way to write bytes. -/
structure Recoder where
  encode : Octets → Except Octets Octets
  decode : Octets → Octets × Bool
  /-- A character that is not mere garbage. -/
  counts : Char → Bool

/-- The way of a base. -/
def ofRadix (r : Radix) : Recoder :=
  ⟨fun t => .ok (r.encode t), r.decode, fun c => r.digits.contains c || (r.fills && c == '=')⟩

/-- The way of eighty-five digits. -/
def of85 : Recoder :=
  ⟨fun t =>
    if t.length % 4 = 0 then .ok (encode85 t.length t)
    else .error (text "invalid input (length must be multiple of 4 characters)"),
   fun t => decode85 t.length t, digits85.contains⟩

/-- The options of all these programs. -/
def words : List Word :=
  [("decode", 'd', .none), ("ignore-garbage", 'i', .none), ("wrap", 'w', .needed)]

/-- Write the bytes of a file in digits, or the other way round. -/
def recode (c : Call) (p : Parsed) (r : Recoder) (width : Nat) : Action Nat := do
  match p.rest[1]? with
  | some x => c.misuse 1 (extraOperand c x)
  | none => pure ()
  let file := p.rest.headD ['-']
  let fd ← match ← openInput file with
    | .ok fd => pure fd
    | .error e => c.die 1 (because c file e)
  match ← Action.readAll fd with
  | .error e => c.die 1 (text "read error: " ++ e.reason)
  | .ok bytes =>
      if p.has 'd' then
        let ds := bytes.filter fun x => x != '\n' && (!p.has 'i' || r.counts x)
        let (t, isRight) := r.decode ds
        say c t
        if isRight then return 0 else c.die 1 (text "invalid input")
      else match r.encode bytes with
        | .error fault => c.die 1 fault
        | .ok t =>
            say c (if width = 0 then t
              else (Dumping.cutEvery width t.length t).flatMap (· ++ ['\n']))
            return 0

/-- The width of lines. -/
def widthOf (c : Call) (p : Parsed) : Action Nat := do
  match p.value? 'w' with
  | none => return 76
  | some t =>
      match count "" t with
      | .ok n => return if Natural.twoTo 63 ≤ n then 0 else n
      | .error .tooLarge => return 0
      | .error _ => c.die 1 (text "invalid wrap size: " ++ c.quote t)

/-- A program for one base. -/
def inRadix (r : Radix) : Utility := fun c =>
  withOptions 1 "diw:" words c fun p => do
    let width ← widthOf c p
    recode c p (ofRadix r) width

/-- The bases, each with the letter of its option. -/
def bases : List (String × Char × Recoder) :=
  [("base64", 'α', ofRadix .base64), ("base64url", 'β', ofRadix .base64url),
   ("base32", 'γ', ofRadix .base32), ("base32hex", 'δ', ofRadix .base32hex),
   ("base16", 'ε', ofRadix .base16), ("base2msbf", 'ζ', ofRadix .base2),
   ("base2lsbf", 'θ', ofRadix .base2lsbf), ("z85", 'κ', of85)]

end Recoding

open Recoding in
/-- Write bytes in base sixty-four, or the other way round. -/
def base64 : Utility := inRadix .base64

open Recoding in
/-- Write bytes in base thirty-two, or the other way round. -/
def base32 : Utility := inRadix .base32

open Recoding in
/-- Write bytes in any base, or the other way round. -/
def basenc : Utility := fun c =>
  withOptions 1 "diw:" (words ++ bases.map fun b => (b.1, b.2.1, Arity.none)) c fun p => do
    let width ← widthOf c p
    match p.lastOf? (bases.map (·.2.1)) with
    | none => c.misused 1 (text "missing encoding type")
    | some letter =>
        match bases.find? (·.2.1 == letter) with
        | some (_, _, r) => recode c p r width
        | none => return 1

end SkipAudit.Utility
