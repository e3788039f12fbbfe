/-
The program that replaces, deletes and squeezes characters.
-/
import SkipAudit.Utility.CharacterSet
import SkipAudit.Utility.Options

namespace SkipAudit.Utility

namespace Characters

open CharacterSet

/-- What is done to characters. -/
structure Replacement where
  deletes : Char → Bool
  replaced : Char → Char
  squeezes : Char → Bool

/-- Carry out a replacement; `before?` is the last character in front. -/
def Replacement.apply (r : Replacement) (before? : Option Char) (t : Octets) :
    Option Char × Octets :=
  let (before?, out) := t.foldl (fun ((before?, out) : Option Char × Octets) c =>
    if r.deletes c then (before?, out)
    else
      let d := r.replaced c
      if r.squeezes d && before? == some d then (before?, out)
      else (some d, d :: out)) (before?, [])
  (before?, out.reverse)

/-- What options and sets ask for. -/
structure Wish where
  complements : Bool
  deletes : Bool
  squeezes : Bool
  truncates : Bool
  first : List SetPart
  second? : Option (List SetPart)

/-- A class of characters belongs to the parts. -/
def hasClass (ps : List SetPart) : Bool := ps.any fun
  | .named .. => true
  | _ => false

/-- Classes of letters stand where the first set has none. -/
def isMisaligned (first second : List SetPart) : Bool :=
  let size1 := size first
  let starts := (caseStarts 0 first).filterMap fun (n, isCase) => if isCase then some n else none
  (caseStarts size1 second).any fun (n, isCase) => isCase && n < size1 && !starts.contains n

/-- What is wrong with the two sets of a translation, if something is. -/
def translationFault? (w : Wish) (second : List SetPart) : Option String :=
  let firstSize := if w.complements then
      (all.filter fun c => !(fill 0 w.first).contains c).length
    else size w.first
  let set2 := fill firstSize second
  let equals := second.any fun
    | .alike _ => true
    | _ => false
  let endsInClass := match second.getLast? with
    | some (.named ..) => true
    | _ => false
  let isUniform := set2.all (some · == set2.head?)
  if equals then some "[=c=] expressions may not appear in string2 when translating"
  else if second.any fun p => match p with
      | .named .. => !isCase p
      | _ => false then
    some ("when translating, the only character classes that may appear in\n" ++
      "string2 are 'upper' and 'lower'")
  else if !w.complements && isMisaligned w.first second then
    some "misaligned [:upper:] and/or [:lower:] construct"
  else if set2.length < firstSize && !w.truncates && set2 = [] then
    some "when not truncating set1, string2 must be non-empty"
  else if set2.length < firstSize && !w.truncates && endsInClass then
    some ("when translating with string1 longer than string2,\n" ++
      "the latter string must not end with a character class")
  else if w.complements && hasClass w.first &&
      !(isUniform && (set2.length = firstSize || (set2.length < firstSize && !w.truncates))) then
    some ("when translating with complemented character classes,\n" ++
      "string2 must map all characters in the domain to one")
  else none

/-- What is wrong with the sets, if something is. -/
def fault? (w : Wish) : Option String :=
  if 0 < openRepetitions w.first then
    some "the [c*] repeat construct may not appear in string1"
  else match w.second? with
    | none => none
    | some second =>
        if 1 < openRepetitions second then
          some "only one [c*] repeat construct may appear in string2"
        else if !w.deletes then translationFault? w second
        else if 0 < openRepetitions second then
          some "the [c*] construct may appear in string2 only when translating"
        else none

/-- The replacement that is asked for. -/
def replacement (w : Wish) : Replacement :=
  let isIn (s : Octets) : Char → Bool :=
    let table := (all.map s.contains).toArray
    fun c => (table[c.toNat]?).getD false
  let plain := fill 0 w.first
  let set1 := if w.complements then all.filter (!isIn plain ·) else plain
  let nothing : Char → Bool := fun _ => false
  match w.second? with
  | none => if w.deletes then ⟨isIn set1, id, nothing⟩ else ⟨nothing, id, isIn set1⟩
  | some second =>
      let set2 := fill set1.length second
      if w.deletes then ⟨isIn set1, id, if w.squeezes then isIn set2 else nothing⟩
      else
        let set1 := if w.truncates then set1.take set2.length else set1
        let full := set2 ++ List.replicate (set1.length - set2.length) (set2.getLastD ' ')
        let pairs := (set1.zip full).reverse
        let table := (all.map fun c => (pairs.lookup c).getD c).toArray
        ⟨nothing, fun c => (table[c.toNat]?).getD c, if w.squeezes then isIn set2 else nothing⟩

end Characters

open Characters in
/-- Replace, delete or squeeze characters. -/
def tr : Utility := fun c =>
  withLeadingOptions 1 "cCdst"
    [("complement", 'c', .none), ("delete", 'd', .none), ("squeeze-repeats", 's', .none),
     ("truncate-set1", 't', .none)] c fun p => do
    let (deletes, squeezes) := (p.has 'd', p.has 's')
    let least := if deletes == squeezes then 2 else 1
    let most := if deletes && !squeezes then 1 else 2
    let explain (what more : Octets) : Action Nat := do
      let _ ← Action.write 2 (c.complaint what ++ more ++ c.hint)
      return 1
    if p.rest.length < least then
      match p.rest.getLast? with
      | none => explain (text "missing operand") []
      | some a =>
          explain (text "missing operand after " ++ c.quote a) (text
            (if squeezes then
              "Two strings must be given when both deleting and squeezing repeats.\n"
            else "Two strings must be given when translating.\n"))
    else if most < p.rest.length then
      explain (text "extra operand " ++ c.quote ((p.rest[most]?).getD []))
        (if p.rest.length = 2 then
          text "Only one string may be given when deleting without squeezing repeats.\n" else [])
    else
      let read (t : Octets) : Action (List SetPart) := do
        for w in (CharacterSet.signs (t.length + 1) t).2 do c.warn w
        match CharacterSet.read c t with
        | .error e => c.die 1 e
        | .ok (ps, _) => return ps
      let first ← read (p.rest.headD [])
      let second? ← match p.rest[1]? with
        | some t => some <$> read t
        | none => pure none
      let w : Wish :=
        ⟨p.has 'c' || p.has 'C', deletes, squeezes, p.has 't', first, second?⟩
      match fault? w with
      | some e => c.die 1 (text e)
      | none =>
          let r := replacement w
          Action.repeatUntil 1 (fun before? => do
            match ← Action.read 0 Action.blockSize with
            | .ok [] => return .inr 0
            | .ok bytes =>
                let (before?, out) := r.apply before? bytes
                say c out
                return .inl before?
            | .error e =>
                c.warn (text "read error: " ++ e.reason)
                return .inr 1) Action.rounds none

end SkipAudit.Utility
